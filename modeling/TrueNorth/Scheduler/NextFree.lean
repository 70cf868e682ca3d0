import TrueNorth.Lib.Grid
import TrueNorth.MaintenanceWindows.Spans
import TrueNorth.Scheduler.Batched
import TrueNorth.Scheduler.Conflicts

/-
  The next free slot for a booking (scheduler/service.py
  `next_free_slot`): the first start, on a grid of quarter
  hours, that its room, its range, its instructor and the
  maintenance windows all allow.

  The room is screened with one read of the whole search
  before a start is checked by itself.

  Key definitions include:
    * `Search`
    * `candidates`
    * `screen`
    * `blockedSpans`
    * `nextFreeSlot`
    * `Acceptable`, `Exact`

  Main theorems:
    * `mem_candidates`
    * `blocked_iff`
    * `clear_iff`
-/

--------
-- The Search
--------

namespace TrueNorth

namespace Scheduler

/-
  What a search is asked: the booking, which need not be as
  it is stored, the time, when to begin, the class's days it
  must lie in, and how many days to go on.
-/
structure Search where
  id : Nat
  evt : ScheduledEvent
  now : Instant
  after : Option Instant
  within : Option (Int × Int)
  days : Int

/-
  What it reads besides: the cluster, the bookings and what
  runs, and the maintenance windows, where ids are UUIDs.
-/
structure Surroundings where
  site : Site
  supply : Resources
  running : Running
  world : World
  outside : MaintenanceWindows.Outside
  upkeep : MaintenanceWindows.Database
  uuid : Nat → MaintenanceWindows.Uuid

/- 2000-01-01, counted in days from 1970-01-01. -/
def epoch : Instant := 10957 * day

/- `_ceil`. -/
def ceil (t : Instant) (step : Int) : Instant :=
  Grid.ceil epoch step t

namespace Search

def length (q : Search) : Int :=
  q.evt.endTime - q.evt.startTime

/- The earliest that the search may begin, off the grid. -/
def earliest
    (cfg : Settings)
    (q : Search) : Instant :=
  max (q.after.getD q.evt.startTime) (q.now + cfg.lead)

/- Where the search begins, on the grid. -/
def first
    (cfg : Settings)
    (q : Search) : Instant :=
  match q.within with
  | none => ceil (q.earliest cfg) slotStep
  | some (firstDay, _) =>
      max (ceil (q.earliest cfg) slotStep) (firstDay * day)

/- How far the search goes. -/
def horizon
    (cfg : Settings)
    (q : Search) : Instant :=
  let last := ceil (q.earliest cfg) slotStep + q.days * day
  match q.within with
  | none => last
  | some (_, lastDay) =>
      min last ((lastDay + 1) * day - q.length)

def candidates
    (cfg : Settings)
    (q : Search) : List Instant :=
  Grid.upTo (q.first cfg) (q.horizon cfg) slotStep

end Search

/-
  `_screen`: what is committed at each candidate, over its
  held window or, for a session that uses its class's ranges,
  at the most in a quarter hour up to the class's end.
-/
def screen
    (s : Surroundings)
    (q : Search) : List Instant → List Committed :=
  fun candidates =>
    match classEnd s.site q.evt, candidates with
    | none, candidates =>
        committedMany s.site s.running s.world.events
          (candidates.map (fun c =>
            heldWindow s.site.cfg c (c + q.length)))
          (some q.id)
    | some _, [] => []
    | some last, c₀ :: rest =>
        let parts :=
          slices (c₀ - s.site.cfg.lead)
            (max last (rest.getLastD c₀ + q.length) +
              s.site.cfg.grace)
        let per :=
          committedMany s.site s.running s.world.events parts
            (some q.id)
        (c₀ :: rest).map (fun c =>
          let held :=
            heldWindow s.site.cfg c (max (c + q.length) last)
          mostCommitted
            (((parts.zip per).filter (fun p =>
              p.1.1 < held.2 && p.1.2 > held.1)).map Prod.snd))

/- The others that hold what they name, for `_blocked_spans`. -/
def blockers
    (s : Surroundings)
    (q : Search)
    (p : ScheduledEvent → Bool) : List ScheduledEvent :=
  (s.world.events.entries.filter (fun entry =>
    entry.2.state.holding && entry.1 ≠ q.id &&
      p entry.2)).map Prod.snd

/- `_blocked_spans`. -/
def blockedSpans
    (s : Surroundings)
    (q : Search)
    (start stop : Instant) : List (Instant × Instant) :=
  let reach := s.site.cfg.reach
  (if q.evt.rangeId.isSome then
    (blockers s q (fun o =>
      o.rangeId = q.evt.rangeId && o.startTime < stop + reach &&
        o.endTime > start - reach)).map (fun o =>
          (o.startTime - reach, o.endTime + reach))
  else []) ++
  (if q.evt.instructorId.isSome then
    (blockers s q (fun o =>
      o.instructorId = q.evt.instructorId &&
        o.startTime < stop && o.endTime > start)).map (fun o =>
          (o.startTime, o.endTime))
  else [])

/- `maintenance_spans`. -/
def maintenanceSpans
    (s : Surroundings)
    (q : Search)
    (start stop : Instant) : List (Instant × Instant) :=
  MaintenanceWindows.Service.bookingSpans s.outside s.upkeep
    (some (s.uuid q.evt.tenantId)) (q.evt.rangeId.map s.uuid)
    (q.evt.templateId.map s.uuid) start stop

/- `fit(...).ok`: nothing in the way, and room. -/
def fitOk
    (s : Surroundings)
    (q : Search)
    (start stop : Instant) : Bool :=
  s.world.conflicts s.site.cfg start stop q.evt.rangeId
      q.evt.instructorId (some q.id) = [] &&
    (fit s.site s.supply s.running s.world.events q.id q.evt
      start stop).fits

/- The tests of the loop, for a candidate and its screening. -/
def passes
    (s : Surroundings)
    (q : Search)
    (blocked windows : List (Instant × Instant))
    (p : Instant × Committed) : Bool :=
  shortfalls q.evt.size (available s.supply p.2.resources) p.1
      (p.1 + q.length) = [] &&
    !blocked.any (fun b => b.1 < p.1 + q.length && b.2 > p.1) &&
    !windows.any (fun w =>
      w.1 < p.1 + q.length && w.2 > p.1 - s.site.cfg.lead) &&
    fitOk s q p.1 (p.1 + q.length)

def nextFreeSlot
    (s : Surroundings)
    (q : Search) : Option (Instant × Instant) × Instant :=
  let first := q.first s.site.cfg
  let horizon := q.horizon s.site.cfg
  let candidates := q.candidates s.site.cfg
  let committed := screen s q candidates
  let blocked := blockedSpans s q first (horizon + q.length)
  let windows :=
    maintenanceSpans s q (first - s.site.cfg.lead)
      (horizon + q.length)
  (((candidates.zip committed).find?
    (passes s q blocked windows)).map (fun p =>
      (p.1, p.1 + q.length)), horizon)

--------
-- What Is Asked of It
--------

/- A start the search may give, whatever else is booked. -/
structure Search.Start
    (cfg : Settings)
    (q : Search)
    (c : Instant) : Prop where
  on : Grid.On epoch slotStep c
  early : q.earliest cfg ≤ c
  within : ∀ days, q.within = some days → days.1 * day ≤ c
  late : c ≤ q.horizon cfg

/-
  Another booking that holds the same range, reach included,
  or the same instructor meets the stretch.
-/
def Busy
    (s : Surroundings)
    (q : Search)
    (start stop : Instant) : Prop :=
  ∃ id o, s.world.events.get? id = some o ∧
    o.state.holding = true ∧ id ≠ q.id ∧
      ((q.evt.rangeId.isSome = true ∧
          o.rangeId = q.evt.rangeId ∧
          o.startTime < stop + s.site.cfg.reach ∧
          o.endTime > start - s.site.cfg.reach) ∨
        (q.evt.instructorId.isSome = true ∧
          o.instructorId = q.evt.instructorId ∧
          o.startTime < stop ∧ o.endTime > start))

/- A start at which the booking may be. -/
structure Acceptable
    (s : Surroundings)
    (q : Search)
    (c : Instant) : Prop where
  fits : fitOk s q c (c + q.length) = true
  clear :
    maintenanceSpans s q (c - s.site.cfg.lead)
      (c + q.length) = []
  free : ¬Busy s q c (c + q.length)

/- The earliest start at which it may be, if there is one. -/
def Exact
    (s : Surroundings)
    (q : Search) : Option (Instant × Instant) → Prop
| some slot =>
    slot.2 = slot.1 + q.length ∧ q.Start s.site.cfg slot.1 ∧
      Acceptable s q slot.1 ∧
      ∀ c, q.Start s.site.cfg c → Acceptable s q c → slot.1 ≤ c
| none => ∀ c, q.Start s.site.cfg c → ¬Acceptable s q c

--------
-- The Tests of the Loop
--------

theorem slotStep_pos : 0 < slotStep := by decide

theorem day_on (d : Int) : Grid.On epoch slotStep (d * day) := by
  refine ⟨(d - 10957) * 96, ?_⟩
  unfold epoch day slotStep
  omega

theorem first_on
    (cfg : Settings)
    (q : Search) :
    Grid.On epoch slotStep (q.first cfg) := by
  unfold Search.first
  cases q.within with
  | none => exact Grid.ceil_on
  | some days =>
      simp only
      rcases max_choice (ceil (q.earliest cfg) slotStep)
        (days.1 * day) with hMax | hMax
      · rw [hMax]
        exact Grid.ceil_on
      · rw [hMax]
        exact day_on days.1

/- The search begins at the first start it may. -/
theorem first_le_iff
    {cfg : Settings}
    {q : Search}
    {c : Instant}
    (hOn : Grid.On epoch slotStep c) :
    q.first cfg ≤ c ↔
      q.earliest cfg ≤ c ∧
        ∀ days, q.within = some days → days.1 * day ≤ c := by
  have hCeil :
      ceil (q.earliest cfg) slotStep ≤ c ↔
        q.earliest cfg ≤ c :=
    ⟨(Grid.le_ceil slotStep_pos).trans,
      Grid.ceil_least slotStep_pos hOn⟩
  unfold Search.first
  cases q.within with
  | none => simp [hCeil]
  | some days => simp [hCeil]

theorem mem_candidates
    {cfg : Settings}
    {q : Search}
    {c : Instant} :
    c ∈ q.candidates cfg ↔ q.Start cfg c := by
  unfold Search.candidates
  rw [Grid.mem_upTo slotStep_pos (first_on cfg q)]
  constructor
  · rintro ⟨hOn, hFirst, hLate⟩
    rcases (first_le_iff hOn).mp hFirst with ⟨hEarly, hWithin⟩
    exact ⟨hOn, hEarly, hWithin, hLate⟩
  · rintro ⟨hOn, hEarly, hWithin, hLate⟩
    exact ⟨hOn, (first_le_iff hOn).mpr ⟨hEarly, hWithin⟩, hLate⟩

section

variable {s : Surroundings}
variable {q : Search}

theorem mem_blockers
    {p : ScheduledEvent → Bool}
    {o : ScheduledEvent} :
    o ∈ blockers s q p ↔
      ∃ id, s.world.events.get? id = some o ∧
        o.state.holding = true ∧ id ≠ q.id ∧ p o = true := by
  unfold blockers
  rw [List.mem_map]
  constructor
  · rintro ⟨⟨id, o⟩, hMem, rfl⟩
    rcases List.mem_filter.mp hMem with ⟨hEntry, hAll⟩
    rw [Bool.and_eq_true, Bool.and_eq_true,
      decide_eq_true_eq] at hAll
    exact ⟨id, Dict.get?_eq_some_iff.mpr hEntry, hAll.1.1,
      hAll.1.2, hAll.2⟩
  · rintro ⟨id, hGet, hHolding, hOther, hP⟩
    refine ⟨(id, o), List.mem_filter.mpr
      ⟨Dict.get?_eq_some_iff.mp hGet, ?_⟩, rfl⟩
    rw [Bool.and_eq_true, Bool.and_eq_true, decide_eq_true_eq]
    exact ⟨⟨hHolding, hOther⟩, hP⟩

/- A start meets what blocks the search just when it is busy. -/
theorem blocked_iff
    {start stop start' stop' : Instant}
    (hStart : start ≤ start')
    (hStop : stop' ≤ stop) :
    (blockedSpans s q start stop).any (fun b =>
        b.1 < stop' && b.2 > start') = true ↔
      Busy s q start' stop' := by
  rw [List.any_eq_true]
  unfold blockedSpans
  constructor
  · rintro ⟨span, hMem, hMeets⟩
    rw [Bool.and_eq_true, decide_eq_true_eq,
      decide_eq_true_eq] at hMeets
    rcases List.mem_append.mp hMem with hRange | hTeacher
    · split at hRange
      · rename_i hSome
        rcases List.mem_map.mp hRange with ⟨o, hO, rfl⟩
        rcases mem_blockers.mp hO with
          ⟨id, hGet, hHolding, hOther, hAll⟩
        rw [Bool.and_eq_true, Bool.and_eq_true,
          decide_eq_true_eq] at hAll
        refine ⟨id, o, hGet, hHolding, hOther, .inl
          ⟨hSome, hAll.1.1, ?_, ?_⟩⟩
        · exact sub_lt_iff_lt_add.mp hMeets.1
        · exact sub_lt_iff_lt_add.mpr hMeets.2
      · cases hRange
    · split at hTeacher
      · rename_i hSome
        rcases List.mem_map.mp hTeacher with ⟨o, hO, rfl⟩
        rcases mem_blockers.mp hO with
          ⟨id, hGet, hHolding, hOther, hAll⟩
        rw [Bool.and_eq_true, Bool.and_eq_true,
          decide_eq_true_eq] at hAll
        exact ⟨id, o, hGet, hHolding, hOther, .inr
          ⟨hSome, hAll.1.1, hMeets.1, hMeets.2⟩⟩
      · cases hTeacher
  · rintro ⟨id, o, hGet, hHolding, hOther,
      ⟨hSome, hSame, hBefore, hAfter⟩ |
      ⟨hSome, hSame, hBefore, hAfter⟩⟩
    · refine ⟨(o.startTime - s.site.cfg.reach,
        o.endTime + s.site.cfg.reach), ?_, ?_⟩
      · apply List.mem_append_left
        rw [if_pos hSome]
        refine List.mem_map.mpr ⟨o, mem_blockers.mpr
          ⟨id, hGet, hHolding, hOther, ?_⟩, rfl⟩
        rw [Bool.and_eq_true, Bool.and_eq_true,
          decide_eq_true_eq, decide_eq_true_eq,
          decide_eq_true_eq]
        exact ⟨⟨hSame,
          hBefore.trans_le (add_le_add hStop le_rfl)⟩,
          (sub_le_sub hStart le_rfl).trans_lt hAfter⟩
      · rw [Bool.and_eq_true, decide_eq_true_eq,
          decide_eq_true_eq]
        exact ⟨sub_lt_iff_lt_add.mpr hBefore,
          sub_lt_iff_lt_add.mp hAfter⟩
    · refine ⟨(o.startTime, o.endTime), ?_, ?_⟩
      · apply List.mem_append_right
        rw [if_pos hSome]
        refine List.mem_map.mpr ⟨o, mem_blockers.mpr
          ⟨id, hGet, hHolding, hOther, ?_⟩, rfl⟩
        rw [Bool.and_eq_true, Bool.and_eq_true,
          decide_eq_true_eq, decide_eq_true_eq,
          decide_eq_true_eq]
        exact ⟨⟨hSame, hBefore.trans_le hStop⟩,
          hStart.trans_lt hAfter⟩
      · rw [Bool.and_eq_true, decide_eq_true_eq,
          decide_eq_true_eq]
        exact ⟨hBefore, hAfter⟩

/- And a busy start is one with conflicts. -/
theorem not_busy_of_fits
    {start stop : Instant}
    (hFits : fitOk s q start stop = true) :
    ¬Busy s q start stop := by
  unfold fitOk at hFits
  rw [Bool.and_eq_true, decide_eq_true_eq] at hFits
  have hNone := hFits.1
  unfold World.conflicts at hNone
  rcases List.append_eq_nil_iff.mp hNone with
    ⟨hRange, hTeacher⟩
  rintro ⟨id, o, hGet, hHolding, hOther,
    ⟨hSome, hSame, hBefore, hAfter⟩ |
    ⟨hSome, hSame, hBefore, hAfter⟩⟩
  · rcases Option.isSome_iff_exists.mp hSome with ⟨r, hr⟩
    rw [hr] at hRange hSame
    have hMem := List.map_eq_nil_iff.mp hRange
    refine List.filter_eq_nil_iff.mp hMem (id, o)
      (World.mem_others.mpr
        ⟨hGet, hHolding, fun h => hOther (Option.some.inj h)⟩) ?_
    simp only [Bool.and_eq_true, decide_eq_true_eq]
    exact ⟨⟨hSame, hBefore⟩, hAfter⟩
  · rcases Option.isSome_iff_exists.mp hSome with ⟨i, hi⟩
    rw [hi] at hTeacher hSame
    have hMem := List.map_eq_nil_iff.mp hTeacher
    refine List.filter_eq_nil_iff.mp hMem (id, o)
      (World.mem_others.mpr
        ⟨hGet, hHolding, fun h => hOther (Option.some.inj h)⟩) ?_
    simp only [Bool.and_eq_true, decide_eq_true_eq]
    exact ⟨⟨hSame, hBefore⟩, hAfter⟩

/- What the search read of the windows, for one start of it. -/
theorem clear_iff
    {start stop start' stop' : Instant}
    (hStart : start ≤ start')
    (hStop : stop' ≤ stop) :
    (maintenanceSpans s q start stop).any (fun w =>
        w.1 < stop' && w.2 > start') = true ↔
      maintenanceSpans s q start' stop' ≠ [] := by
  unfold maintenanceSpans
  rw [← MaintenanceWindows.Service.bookingSpans_narrow s.outside
    s.upkeep (some (s.uuid q.evt.tenantId))
    (q.evt.rangeId.map s.uuid) (q.evt.templateId.map s.uuid)
    hStart hStop, List.any_eq_true]
  simp only [Bool.and_eq_true, decide_eq_true_eq, gt_iff_lt]

/- There is room for the booking beside what is committed. -/
def Roomy
    (s : Surroundings)
    (q : Search)
    (committed : Committed) : Prop :=
  ∀ r, q.evt.size.get r ≤
    s.supply.get r - committed.resources.get r

theorem shortfalls_nil_iff
    {need free : Resources}
    {start stop : Instant} :
    shortfalls need free start stop = [] ↔
      ∀ r, need.get r ≤ free.get r := by
  refine ⟨fun hNone r => shortfalls_eq_nil hNone r, ?_⟩
  intro hRoom
  unfold shortfalls
  rw [List.map_eq_nil_iff, List.filter_eq_nil_iff]
  intro r _
  rw [decide_eq_true_eq, not_lt]
  exact hRoom r

/- A candidate passes when it is roomy and acceptable. -/
theorem passes_iff
    {c : Instant}
    {committed : Committed}
    (hMem : c ∈ q.candidates s.site.cfg) :
    passes s q
        (blockedSpans s q (q.first s.site.cfg)
          (q.horizon s.site.cfg + q.length))
        (maintenanceSpans s q
          (q.first s.site.cfg - s.site.cfg.lead)
          (q.horizon s.site.cfg + q.length))
        (c, committed) = true ↔
      Roomy s q committed ∧ Acceptable s q c := by
  have hStart := mem_candidates.mp hMem
  have hFirst : q.first s.site.cfg ≤ c :=
    (first_le_iff hStart.on).mpr ⟨hStart.early, hStart.within⟩
  have hLast :
      c + q.length ≤ q.horizon s.site.cfg + q.length :=
    add_le_add hStart.late le_rfl
  have hRoomy :
      shortfalls q.evt.size
          (available s.supply committed.resources) c
          (c + q.length) = [] ↔
        Roomy s q committed := by
    rw [shortfalls_nil_iff]
    unfold Roomy
    simp only [available_get]
  have hBusy := @blocked_iff s q _ _ _ _ hFirst hLast
  have hClear := @clear_iff s q _ _ _ _
    (sub_le_sub hFirst (le_refl s.site.cfg.lead)) hLast
  unfold passes
  simp only [Bool.and_eq_true, Bool.not_eq_true',
    decide_eq_true_eq, ← Bool.not_eq_true]
  rw [hRoomy, hBusy, hClear, not_ne_iff]
  constructor
  · rintro ⟨⟨⟨hRoom, hFree⟩, hNone⟩, hFits⟩
    exact ⟨hRoom, hFits, hNone, hFree⟩
  · rintro ⟨hRoom, hFits, hNone, hFree⟩
    exact ⟨⟨⟨hRoom, hFree⟩, hNone⟩, hFits⟩

end

end Scheduler

end TrueNorth
