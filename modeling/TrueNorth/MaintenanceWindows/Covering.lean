import TrueNorth.MaintenanceWindows.Policy

/-
  The three lookups of the windows over a range: one range
  and a list of ranges by the API (service.py), and one
  range by the worker at a task's entry.

  Key definitions include:
    * `Database`
    * `Service.coveringRange`
    * `Service.heldRangeIds`
    * `Worker.covering`

  Main theorem:
    * `covering_agrees`
-/

--------
-- The Database
--------

namespace TrueNorth

namespace MaintenanceWindows

structure Range where
  id : Uuid
  tenantId : Option Uuid
  templateId : Uuid
deriving DecidableEq

structure Template where
  id : Uuid
  yaml : String
deriving DecidableEq

abbrev Range.clash (r r' : Range) : Prop := r.id = r'.id

abbrev Template.clash (t t' : Template) : Prop :=
  t.id = t'.id

/- What both sides read; the ids are primary keys. -/
structure Database where
  windows : List Window
  ranges : Table Range Range.clash
  templates : Table Template Template.clash

instance : Std.Symm Range.clash := ⟨fun _ _ => Eq.symm⟩

instance : Std.Symm Template.clash := ⟨fun _ _ => Eq.symm⟩

/- The template with an id. -/
def Database.template?
    (db : Database)
    (id : Uuid) : Option Template :=
  db.templates.rows.find? (fun t => t.id = id)

/- `ORDER BY ends_at DESC`. -/
def latestFirst (windows : List Window) : List Window :=
  windows.mergeSort (fun w w' => w'.endsAt ≤ w.endsAt)

@[simp] theorem mem_latestFirst
    {windows : List Window}
    {w : Window} :
    w ∈ latestFirst windows ↔ w ∈ windows :=
  List.mem_mergeSort

end MaintenanceWindows

end TrueNorth

--------
-- The API's Lookups
--------

namespace TrueNorth

namespace MaintenanceWindows

namespace Service

variable (py : Outside)

/- One microsecond. -/
def tick : Instant := 1

def inEffect
    (w : Window)
    (at' : Instant) : Bool :=
  w.startsAt ≤ at' ∧ at' < w.endsAt

/- The tenant's windows and the platform's in a span. -/
def candidates
    (db : Database)
    (tenantId : Option Uuid)
    (start stop : Instant) : List Window :=
  latestFirst
    (db.windows.filter (fun w =>
      (w.tenantId = none ∨
        (tenantId ≠ none ∧ w.tenantId = tenantId)) ∧
      w.startsAt < stop ∧ w.endsAt > start))

/- `_range_tags_loader`, once called. -/
def rangeTags
    (db : Database)
    (templateId : Option Uuid) : List String :=
  Policy.templateTags py
    ((templateId.bind db.template?).map Template.yaml)

/- `_covering`. -/
def covering
    (windows : List Window)
    (tenantId rangeId : Option Uuid)
    (tags : List String) : List Window :=
  windows.filter (fun w =>
    let rangeTags := if w.scope = .tags then tags else []
    Policy.applies py w.tenantId w.scope w.rangeIds w.tags
      rangeId tenantId (some rangeTags))

/- The windows in effect that cover a range. -/
def coveringRange
    (db : Database)
    (rng : Range)
    (at' : Instant) : List Window :=
  let windows :=
    (candidates db rng.tenantId at' (at' + tick)).filter
      (inEffect · at')
  covering py windows rng.tenantId (some rng.id)
    (rangeTags py db (some rng.templateId))

/- `live`: the windows in effect of any of the tenants. -/
def live
    (db : Database)
    (tenants : List Uuid)
    (at' : Instant) : List Window :=
  (db.windows.filter (fun w =>
    (w.tenantId = none ∨
      ∃ t ∈ tenants, w.tenantId = some t) ∧
    w.startsAt < at' + tick ∧ w.endsAt > at')).filter
      (inEffect · at')

/-
  `tags`: the tags of the ranges' templates, in one query
  and only if a window needs them.
-/
def batchTags
    (db : Database)
    (ranges : List Range)
    (live : List Window)
    (templateId : Uuid) : List String :=
  let rows :=
    if live.any (fun w => w.scope = .tags) then
      db.templates.rows.filter
        (fun t => t.id ∈ ranges.map Range.templateId)
    else
      []
  match rows.find? (fun t => t.id = templateId) with
  | none => []
  | some t => Policy.templateTags py (some t.yaml)

/- The ids, of a list of ranges, that a window holds. -/
def heldRangeIds
    (db : Database)
    (ranges : List Range)
    (at' : Instant) : List Uuid :=
  if ranges = [] then
    []
  else
    let live := live db (ranges.filterMap Range.tenantId) at'
    if live = [] then
      []
    else
      (ranges.filter (fun r =>
        covering py live r.tenantId (some r.id)
          (batchTags py db ranges live r.templateId) ≠
            [])).map Range.id

end Service

end MaintenanceWindows

end TrueNorth

--------
-- The Worker's Lookup
--------

namespace TrueNorth

namespace MaintenanceWindows

namespace Worker

variable (py : Outside)

/-
  The loop over the rows.  `tags` caches the tags of the
  range's template, read for the first window that asks.
-/
def firstCovering
    (db : Database)
    (rng : Range)
    (now : Instant) :
    List Window → Option (List String) → Option Window
| [], _ => none
| w :: rows, tags =>
    if ¬ (w.startsAt ≤ now ∧ now < w.endsAt) then
      firstCovering db rng now rows tags
    else
      let tags :=
        if w.scope = .tags ∧ tags = none then
          some (templateTags py
            ((db.template? rng.templateId).map Template.yaml))
        else
          tags
      if applies py w.tenantId w.scope w.rangeIds w.tags
          (some rng.id.text) rng.tenantId
          (some (tags.getD [])) then
        some w
      else
        firstCovering db rng now rows tags

/- The window in effect over a range, the latest-ending. -/
def covering
    (db : Database)
    (rangeId : String)
    (now : Instant) : Option Window :=
  match
    db.ranges.rows.find? (fun r => r.id.text = rangeId)
  with
  | none => none
  | some rng =>
      let rows := latestFirst
        (db.windows.filter (fun w =>
          (w.tenantId = none ∨
            (rng.tenantId ≠ none ∧
              w.tenantId = rng.tenantId)) ∧
          w.startsAt ≤ now ∧ w.endsAt > now))
      firstCovering py db rng now rows none

end Worker

end MaintenanceWindows

end TrueNorth

--------
-- Agreement
--------

namespace TrueNorth

namespace MaintenanceWindows

variable (py : Outside)

/- What all three ask of a window in effect. -/
def Covers
    (db : Database)
    (rng : Range)
    (at' : Instant)
    (w : Window) : Prop :=
  w.startsAt ≤ at' ∧ at' < w.endsAt ∧
    Policy.applies py w.tenantId w.scope w.rangeIds w.tags
      (some rng.id) rng.tenantId
      (some (Service.rangeTags py db (some rng.templateId))) =
        true

instance
    (db : Database)
    (rng : Range)
    (at' : Instant)
    (w : Window) : Decidable (Covers py db rng at' w) :=
  inferInstanceAs (Decidable (_ ∧ _ ∧ _))

/- Another tenant's window covers nothing of this one's. -/
theorem applies_tenant
    {windowTenant rangeId rangeTenant : Option Uuid}
    {scope : Scope}
    {rangeIds tags rangeTags : Option (List String)}
    (hApplies : Policy.applies py windowTenant scope rangeIds
      tags rangeId rangeTenant rangeTags = true) :
    windowTenant = none ∨
      (rangeTenant ≠ none ∧ windowTenant = rangeTenant) := by
  cases windowTenant with
  | none => exact .inl rfl
  | some t =>
      right
      unfold Policy.applies at hApplies
      by_cases hSame : some t = rangeTenant
      · refine ⟨?_, hSame⟩
        rw [← hSame]
        exact Option.some_ne_none t
      · have hText : str (some t) ≠ str rangeTenant :=
          fun h => hSame (str_inj.mp h)
        rw [if_pos ⟨rfl, hText⟩] at hApplies
        cases hApplies

/- Tags are looked at for a window with tags only. -/
theorem applies_tags
    (windowTenant rangeId rangeTenant : Option Uuid)
    (scope : Scope)
    (rangeIds tags : Option (List String))
    (rangeTags rangeTags' : Option (List String))
    (hTags : scope = .tags → rangeTags = rangeTags') :
    Policy.applies py windowTenant scope rangeIds tags
        rangeId rangeTenant rangeTags =
      Policy.applies py windowTenant scope rangeIds tags
        rangeId rangeTenant rangeTags' := by
  by_cases hScope : scope = .tags
  · rw [hTags hScope]
  · unfold Policy.applies
    simp only [hScope, if_false]

theorem Service.covering_iff
    (windows : List Window)
    (tenantId rangeId : Option Uuid)
    (tags : List String)
    (w : Window) :
    w ∈ Service.covering py windows tenantId rangeId tags ↔
      w ∈ windows ∧
        Policy.applies py w.tenantId w.scope w.rangeIds w.tags
          rangeId tenantId (some tags) = true := by
  unfold Service.covering
  rw [List.mem_filter]
  dsimp only
  rw [applies_tags py w.tenantId rangeId tenantId w.scope
    w.rangeIds w.tags _ (some tags)
    (fun hScope => by rw [if_pos hScope])]

theorem Service.inEffect_iff
    (w : Window)
    (at' : Instant) :
    Service.inEffect w at' = true ↔
      w.startsAt ≤ at' ∧ at' < w.endsAt := by
  unfold Service.inEffect
  rw [decide_eq_true_eq]

/- The single lookup finds every window that covers. -/
theorem Service.mem_coveringRange
    (db : Database)
    (rng : Range)
    (at' : Instant)
    (w : Window) :
    w ∈ Service.coveringRange py db rng at' ↔
      w ∈ db.windows ∧ Covers py db rng at' w := by
  unfold Service.coveringRange Service.candidates
  rw [Service.covering_iff, List.mem_filter,
    mem_latestFirst, List.mem_filter, decide_eq_true_eq,
    Service.inEffect_iff]
  constructor
  · rintro ⟨⟨⟨hMem, _⟩, hStart, hEnd⟩, hApplies⟩
    exact ⟨hMem, hStart, hEnd, hApplies⟩
  · rintro ⟨hMem, hStart, hEnd, hApplies⟩
    have hTenant := applies_tenant py hApplies
    have hTick : w.startsAt < at' + Service.tick := by
      exact Int.lt_add_one_of_le hStart
    exact ⟨⟨⟨hMem, hTenant, hTick, hEnd⟩, hStart, hEnd⟩,
      hApplies⟩

theorem Service.mem_live
    (db : Database)
    (tenants : List Uuid)
    (at' : Instant)
    (w : Window) :
    w ∈ Service.live db tenants at' ↔
      w ∈ db.windows ∧
        (w.tenantId = none ∨
          ∃ t ∈ tenants, w.tenantId = some t) ∧
        w.startsAt ≤ at' ∧ at' < w.endsAt := by
  unfold Service.live
  rw [List.mem_filter, List.mem_filter, decide_eq_true_eq,
    Service.inEffect_iff]
  constructor
  · rintro ⟨⟨hMem, hTenant, _⟩, hStart, hEnd⟩
    exact ⟨hMem, hTenant, hStart, hEnd⟩
  · rintro ⟨hMem, hTenant, hStart, hEnd⟩
    have hTick : w.startsAt < at' + Service.tick :=
      Int.lt_add_one_of_le hStart
    exact ⟨⟨hMem, hTenant, hTick, hEnd⟩, hStart, hEnd⟩

/- The batch reads a template's tags as one lookup does. -/
theorem Service.batchTags_eq
    (db : Database)
    {ranges : List Range}
    {live : List Window}
    (hTags : ∃ w ∈ live, w.scope = .tags)
    {r : Range}
    (hMem : r ∈ ranges) :
    Service.batchTags py db ranges live r.templateId =
      Service.rangeTags py db (some r.templateId) := by
  have hAny :
      live.any (fun w => decide (w.scope = .tags)) = true := by
    rw [List.any_eq_true]
    rcases hTags with ⟨w, hLive, hScope⟩
    exact ⟨w, hLive, decide_eq_true hScope⟩
  have hSame :
      (db.templates.rows.filter (fun t =>
          t.id ∈ ranges.map Range.templateId)).find?
            (fun t => t.id = r.templateId) =
        db.template? r.templateId := by
    unfold Database.template?
    rw [List.find?_filter]
    congr 1
    funext t
    by_cases hId : t.id = r.templateId
    · have hIn : r.templateId ∈ ranges.map Range.templateId :=
        List.mem_map_of_mem hMem
      simp only [hId, hIn, decide_true, and_self]
    · simp only [hId, decide_false, Bool.false_eq_true,
        and_false]
  unfold Service.batchTags Service.rangeTags
  rw [if_pos hAny]
  dsimp only
  rw [hSame, Option.bind_some]
  cases db.template? r.templateId <;> rfl

/- The batch finds every range that something covers. -/
theorem Service.mem_heldRangeIds
    (db : Database)
    (ranges : List Range)
    (at' : Instant)
    (id : Uuid) :
    id ∈ Service.heldRangeIds py db ranges at' ↔
      ∃ r ∈ ranges, r.id = id ∧
        Service.coveringRange py db r at' ≠ [] := by
  unfold Service.heldRangeIds
  by_cases hNone : ranges = []
  · rw [if_pos hNone, hNone]
    simp
  rw [if_neg hNone]
  dsimp only
  generalize hLive : Service.live db
    (ranges.filterMap Range.tenantId) at' = live
  -- the windows read for all cover one as its own do
  have hSame : ∀ r ∈ ranges, ∀ w,
      w ∈ Service.covering py live r.tenantId (some r.id)
          (Service.batchTags py db ranges live r.templateId) ↔
        w ∈ Service.coveringRange py db r at' := by
    intro r hMem w
    rw [Service.covering_iff, Service.mem_coveringRange,
      ← hLive, Service.mem_live, hLive]
    have hTags : w ∈ live →
        Policy.applies py w.tenantId w.scope w.rangeIds w.tags
          (some r.id) r.tenantId
          (some (Service.batchTags py db ranges live
            r.templateId)) =
        Policy.applies py w.tenantId w.scope w.rangeIds w.tags
          (some r.id) r.tenantId
          (some (Service.rangeTags py db
            (some r.templateId))) := by
      intro hIn
      apply applies_tags
      intro hScope
      rw [Service.batchTags_eq py db ⟨w, hIn, hScope⟩ hMem]
    constructor
    · rintro ⟨⟨hWindow, hTenant, hStart, hEnd⟩, hApplies⟩
      have hIn : w ∈ live := by
        rw [← hLive]
        exact (Service.mem_live db _ at' w).mpr
          ⟨hWindow, hTenant, hStart, hEnd⟩
      rw [hTags hIn] at hApplies
      exact ⟨hWindow, hStart, hEnd, hApplies⟩
    · rintro ⟨hWindow, hStart, hEnd, hApplies⟩
      have hTenant : w.tenantId = none ∨
          ∃ t ∈ ranges.filterMap Range.tenantId,
            w.tenantId = some t := by
        rcases applies_tenant py hApplies with
          hPlatform | ⟨hSome, hOwn⟩
        · exact .inl hPlatform
        · cases hTenant : r.tenantId with
          | none => exact absurd hTenant hSome
          | some t =>
              refine .inr ⟨t, ?_, hOwn.trans hTenant⟩
              exact List.mem_filterMap.mpr ⟨r, hMem, hTenant⟩
      have hIn : w ∈ live := by
        rw [← hLive]
        exact (Service.mem_live db _ at' w).mpr
          ⟨hWindow, hTenant, hStart, hEnd⟩
      rw [hTags hIn]
      exact ⟨⟨hWindow, hTenant, hStart, hEnd⟩, hApplies⟩
  have hSameNil : ∀ r ∈ ranges,
      (Service.covering py live r.tenantId (some r.id)
          (Service.batchTags py db ranges live r.templateId) ≠
            [] ↔
        Service.coveringRange py db r at' ≠ []) := by
    intro r hMem
    constructor
    · intro hSome
      rcases List.exists_mem_of_ne_nil _ hSome with ⟨w, hw⟩
      exact List.ne_nil_of_mem ((hSame r hMem w).mp hw)
    · intro hSome
      rcases List.exists_mem_of_ne_nil _ hSome with ⟨w, hw⟩
      exact List.ne_nil_of_mem ((hSame r hMem w).mpr hw)
  by_cases hEmpty : live = []
  · rw [if_pos hEmpty]
    constructor
    · intro hNot
      cases hNot
    · rintro ⟨r, hMem, _, hSome⟩
      rw [← hSameNil r hMem, hEmpty] at hSome
      exact absurd rfl hSome
  · rw [if_neg hEmpty, List.mem_map]
    constructor
    · rintro ⟨r, hFilter, hId⟩
      rcases List.mem_filter.mp hFilter with ⟨hMem, hSome⟩
      rw [decide_eq_true_eq, hSameNil r hMem] at hSome
      exact ⟨r, hMem, hId, hSome⟩
    · rintro ⟨r, hMem, hId, hSome⟩
      refine ⟨r, List.mem_filter.mpr ⟨hMem, ?_⟩, hId⟩
      rw [decide_eq_true_eq, hSameNil r hMem]
      exact hSome

/-
  The worker's loop takes the first window that covers,
  whatever it has cached.  By induction on the rows.
-/
theorem Worker.firstCovering_eq
    (db : Database)
    (rng : Range)
    (now : Instant)
    (rows : List Window)
    {tags : Option (List String)}
    (hCache : tags = none ∨
      tags = some
        (Service.rangeTags py db (some rng.templateId))) :
    Worker.firstCovering py db rng now rows tags =
      rows.find? (fun w => Covers py db rng now w) := by
  induction rows generalizing tags with
  | nil => rfl
  | cons w rows ih =>
      rw [Worker.firstCovering, List.find?_cons]
      by_cases hTime : w.startsAt ≤ now ∧ now < w.endsAt
      · rw [if_neg (not_not_intro hTime)]
        dsimp only
        generalize hNext :
          (if w.scope = .tags ∧ tags = none then
            some (Worker.templateTags py
              ((db.template? rng.templateId).map
                Template.yaml))
          else tags) = tags'
        have hCache' : tags' = none ∨
            tags' = some (Service.rangeTags py db
              (some rng.templateId)) := by
          rw [← hNext]
          split
          · exact .inr rfl
          · exact hCache
        have hRead : w.scope = .tags →
            tags' = some (Service.rangeTags py db
              (some rng.templateId)) := by
          intro hScope
          rw [← hNext]
          rcases hCache with rfl | rfl
          · rw [if_pos ⟨hScope, rfl⟩]
            rfl
          · rw [if_neg (by simp)]
        have hApplies :
            (Worker.applies py w.tenantId w.scope w.rangeIds
              w.tags (some rng.id.text) rng.tenantId
              (some (tags'.getD [])) = true) ↔
              Covers py db rng now w := by
          rw [Worker.applies_eq]
          unfold Covers
          rw [applies_tags py w.tenantId _ _ w.scope w.rangeIds
            w.tags _ _ (fun hScope => by rw [hRead hScope])]
          constructor
          · exact fun h => ⟨hTime.1, hTime.2, h⟩
          · exact fun h => h.2.2
        by_cases hCovers : Covers py db rng now w
        · rw [if_pos (hApplies.mpr hCovers),
            decide_eq_true hCovers]
        · rw [if_neg (fun h => hCovers (hApplies.mp h)),
            decide_eq_false hCovers, ih hCache']
      · have hNot : ¬ Covers py db rng now w :=
          fun h => hTime ⟨h.1, h.2.1⟩
        rw [if_pos hTime, decide_eq_false hNot, ih hCache]

/- The text of a row's id finds the row. -/
theorem Database.range_of_text
    (db : Database)
    {rng : Range}
    (hMem : rng ∈ db.ranges.rows) :
    db.ranges.rows.find?
        (fun r => r.id.text = rng.id.text) = some rng := by
  cases hFind : db.ranges.rows.find?
      (fun r => r.id.text = rng.id.text) with
  | none =>
      have hNot := List.find?_eq_none.mp hFind rng hMem
      exact absurd (decide_eq_true rfl) hNot
  | some r =>
      have hText := List.find?_some hFind
      rw [decide_eq_true_eq] at hText
      have hSame : str (some r.id) = str (some rng.id) := hText
      have hId : r.id = rng.id :=
        Option.some.inj (str_inj.mp hSame)
      rw [db.ranges.eq_of_clash
        (List.mem_of_find?_eq_some hFind) hMem hId]

/- The worker takes the API's first window. -/
theorem Worker.covering_eq
    (db : Database)
    {rng : Range}
    (hMem : rng ∈ db.ranges.rows)
    (at' : Instant) :
    Worker.covering py db rng.id.text at' =
      (Service.coveringRange py db rng at').head? := by
  have hRows :
      Service.candidates db rng.tenantId at'
          (at' + Service.tick) =
        latestFirst (db.windows.filter (fun w =>
          (w.tenantId = none ∨
            (rng.tenantId ≠ none ∧
              w.tenantId = rng.tenantId)) ∧
          w.startsAt ≤ at' ∧ w.endsAt > at')) := by
    unfold Service.candidates
    congr 1
    apply List.filter_congr
    intro w _
    rw [decide_eq_decide]
    have hTick : w.startsAt < at' + Service.tick ↔
        w.startsAt ≤ at' := Int.lt_add_one_iff
    rw [hTick]
  unfold Worker.covering
  rw [db.range_of_text hMem]
  dsimp only
  rw [Worker.firstCovering_eq py db rng at' _ (.inl rfl),
    ← hRows]
  unfold Service.coveringRange Service.covering
  rw [List.head?_filter, List.find?_filter]
  congr 1
  funext w
  rw [Bool.eq_iff_iff]
  simp only [decide_eq_true_eq]
  rw [Service.inEffect_iff]
  unfold Covers
  rw [applies_tags py w.tenantId _ _ w.scope w.rangeIds
    w.tags (some (if w.scope = .tags then _ else [])) _
    (fun hScope => by rw [if_pos hScope])]
  exact and_assoc.symm

/-
  The API and the worker agree on maintenance windows: for
  any windows, range, template and instant, the worker finds
  a window over the range exactly when the API does, and the
  same one; and the batch lookup holds exactly the ranges
  the single one finds a window for.
-/
theorem covering_agrees
    (db : Database)
    (rng : Range)
    (hMem : rng ∈ db.ranges.rows)
    (at' : Instant) :
    ((Worker.covering py db rng.id.text at').isSome ↔
      Service.coveringRange py db rng at' ≠ []) ∧
    Worker.covering py db rng.id.text at' =
      (Service.coveringRange py db rng at').head? ∧
    ∀ ranges id,
      id ∈ Service.heldRangeIds py db ranges at' ↔
        ∃ r ∈ ranges, r.id = id ∧
          Service.coveringRange py db r at' ≠ [] := by
  have hSame := Worker.covering_eq py db hMem at'
  refine ⟨?_, hSame, ?_⟩
  · rw [hSame, List.isSome_head?]
  · intro ranges id
    exact Service.mem_heldRangeIds py db ranges at' id

/-
  A platform-wide window over everything, asked about a
  range in its last microsecond and just after.
-/
theorem covering_agrees_edge :
    let py : Outside :=
      { strip := fun text => text
        lower := String.toLower
        load := fun _ => some .other }
    let id : Uuid :=
      ⟨"00000000-0000-4000-8000-000000000001", by decide⟩
    let rng : Range := ⟨id, none, id⟩
    let db : Database :=
      { windows := [⟨none, 0, 10, .all, some [], some []⟩]
        ranges := ⟨[rng], List.pairwise_singleton _ _⟩
        templates := Table.empty }
    ((Worker.covering py db id.text 9).isSome ↔
      Service.coveringRange py db rng 9 ≠ []) ∧
    ((Worker.covering py db id.text 10).isSome ↔
      Service.coveringRange py db rng 10 ≠ []) := by
  intro py id rng db
  exact ⟨(covering_agrees py db rng (by simp [db]) 9).1,
    (covering_agrees py db rng (by simp [db]) 10).1⟩

end MaintenanceWindows

end TrueNorth
