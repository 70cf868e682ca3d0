import TrueNorth.Scheduler.NextFree

/-
  The next free slot and the screening of its candidates:
  what the search finds is always a start at which the
  booking may be, and it is the earliest one when the
  screening counts nothing there that `fit` does not.

  Key definitions include:
    * `Look`, `screenLook`, `fitLook`
    * `CountsWithin`
    * `screened`

  Main theorems:
    * `load_le`
    * `nextFreeSlot_exact`
-/

--------
-- What One Read Counts and Another Does
--------

namespace TrueNorth

namespace Scheduler

/-
  A range that runs, if a read counts it in a window: it is
  not gone, no hold or booking there covers it, and it is not
  left out with the booking that is checked again.
-/
def rangeIn
    (site : Site)
    (running : Running)
    (events : Dict Nat ScheduledEvent)
    (exclude : Option Nat)
    (read w : Instant × Instant)
    (r : Nat × Resources) : Bool :=
  let found :=
    held site running events read.1 read.2 exclude
  running.now < w.2 &&
    (!((((found.1.filter (Held.meets w)).flatMap
        Held.uses).contains r.1) || found.2.contains r.1) &&
      match running.ends r.1 with
      | none => true
      | some gone => gone > w.1)

/-
  Whatever one read counts in a window, another one counts in
  a window of its own: class holds, bookings and ranges.
-/
structure CountsWithin
    (site : Site)
    (running : Running)
    (events : Dict Nat ScheduledEvent)
    (exclude : Option Nat)
    (read w read' w' : Instant × Instant) : Prop where
  holds : ∀ key h, key ∈ groupKeys site none events →
    spanOf site events key = some h →
    finds site read h = true →
    some key ≠ ownKey site events exclude →
    h.start < w.2 ∧ w.1 < h.stop →
      finds site read' h = true ∧
        h.start < w'.2 ∧ w'.1 < h.stop
  bookings : ∀ id evt, events.get? id = some evt →
    evt.state.holding = true → some id ≠ exclude →
    absorbs site events read evt = false →
    evt.startTime - site.cfg.lead < w.2 ∧
        w.1 < evt.endTime + site.cfg.grace →
      absorbs site events read' evt = false ∧
        evt.startTime - site.cfg.lead < w'.2 ∧
          w'.1 < evt.endTime + site.cfg.grace
  ranges : ∀ r ∈ running.ranges,
    rangeIn site running events exclude read w r = true →
      rangeIn site running events exclude read' w' r = true

section

variable {site : Site}
variable {running : Running}
variable {events : Dict Nat ScheduledEvent}
variable {exclude : Option Nat}
variable {read w read' w' : Instant × Instant}

theorem sum_filter_snd
    (p : Nat × Resources → Bool)
    (rs : List (Nat × Resources))
    (r : Resource) :
    (((rs.filter p).map Prod.snd).map (fun x => x.get r)).sum =
      (rs.map (fun x => if p x = true then x.2.get r else 0)).sum := by
  induction rs with
  | nil => rfl
  | cons x rs ih =>
      by_cases hp : p x = true
      · rw [List.filter_cons_of_pos hp]
        simp only [List.map_cons, List.sum_cons, if_pos hp]
        rw [← ih]
      · rw [List.filter_cons_of_neg hp]
        simp only [List.map_cons, List.sum_cons, if_neg hp]
        rw [← ih, Nat.zero_add]

/- What is counted, by hold, by booking and by range. -/
theorem counted_get
    (hFrom : read.1 ≤ w.1)
    (hTo : w.2 ≤ read.2)
    (r : Resource) :
    (counted site running events exclude read
        w).resources.get r =
      ((groupKeys site none events).map (fun key =>
        (holdIn site running events exclude read w key).elim 0
          (fun h => h.size.get r))).sum +
      (events.entries.map (fun entry =>
        (bookingIn site running events exclude read w
          entry).elim 0 (fun h => h.size.get r))).sum +
      (running.ranges.map (fun x =>
        if rangeIn site running events exclude read w x = true
        then x.2.get r
        else 0)).sum := by
  have hHeld := @held_meets site running events exclude read w
    hFrom hTo
  rw [← Loads.sum_filterMap, ← Loads.sum_filterMap,
    ← List.sum_append, ← List.map_append, ← hHeld, counted_eq]
  unfold sumHeld
  simp only
  rw [Resources.total_get, List.map_append, List.sum_append,
    List.map_map]
  congr 1
  rw [← sum_filter_snd]
  unfold rangeIn
  by_cases hNow : running.now < w.2
  · simp only [hNow, if_true, decide_true, Bool.true_and]
    rfl
  · simp only [hNow, if_false, decide_false, Bool.false_and,
      List.filter_false]

/- So what counts less comes to no more, of any resource. -/
theorem counted_le
    (hFrom : read.1 ≤ w.1)
    (hTo : w.2 ≤ read.2)
    (hFrom' : read'.1 ≤ w'.1)
    (hTo' : w'.2 ≤ read'.2)
    (hWithin :
      CountsWithin site running events exclude read w read' w')
    (r : Resource) :
    (counted site running events exclude read
        w).resources.get r ≤
      (counted site running events exclude read'
        w').resources.get r := by
  rw [counted_get hFrom hTo, counted_get hFrom' hTo']
  refine Nat.add_le_add (Nat.add_le_add ?_ ?_) ?_
  · apply List.sum_le_sum
    intro key hMem
    unfold holdIn
    cases hSpan : spanOf site events key with
    | none => exact Nat.le_refl _
    | some h =>
        rw [Option.filter_some, Option.filter_some]
        split
        · rename_i hCounts
          rw [Bool.and_eq_true, Bool.and_eq_true,
            decide_eq_true_eq, meets_iff] at hCounts
          rcases hWithin.holds key h hMem hSpan hCounts.1.1
            hCounts.1.2 hCounts.2 with ⟨hFinds, hMeets⟩
          rw [if_pos]
          rw [Bool.and_eq_true, Bool.and_eq_true,
            decide_eq_true_eq, meets_iff]
          exact ⟨⟨hFinds, hCounts.1.2⟩, hMeets⟩
        · exact Nat.zero_le _
  · apply List.sum_le_sum
    rintro ⟨id, evt⟩ hMem
    unfold bookingIn
    simp only
    split
    · rename_i hCounts
      rw [Bool.and_eq_true, Bool.and_eq_true, Bool.and_eq_true,
        decide_eq_true_eq, Bool.not_eq_true', meets_iff]
        at hCounts
      rcases hCounts with ⟨⟨⟨hHolding, hOther⟩, hAbsorbs⟩, hMeets⟩
      rcases hWithin.bookings id evt
        (Dict.get?_eq_some_iff.mpr hMem) hHolding hOther hAbsorbs
        hMeets with ⟨hAbsorbs', hMeets'⟩
      rw [if_pos]
      rw [Bool.and_eq_true, Bool.and_eq_true,
        Bool.and_eq_true, decide_eq_true_eq,
        Bool.not_eq_true', meets_iff]
      exact ⟨⟨⟨hHolding, hOther⟩, hAbsorbs'⟩, hMeets'⟩
    · exact Nat.zero_le _
  · apply List.sum_le_sum
    intro x hMem
    split
    · rename_i hCounts
      rw [if_pos (hWithin.ranges x hMem hCounts)]
    · exact Nat.zero_le _

end

--------
-- The Screening and the Fit
--------

/- Windows that are read at once, and those asked for of them. -/
structure Look where
  all : List (Instant × Instant)
  asked : List (Instant × Instant)

/- The most that is counted of a resource in what is asked. -/
def Look.load
    (s : Surroundings)
    (q : Search)
    (l : Look)
    (r : Resource) : Nat :=
  Loads.peak (l.asked.map (fun w =>
    (counted s.site s.running s.world.events (some q.id)
      (hull l.all) w).resources.get r))

/- One look counts nothing at all that another does not. -/
def Look.Within
    (s : Surroundings)
    (q : Search)
    (l l' : Look) : Prop :=
  ∀ w ∈ l.asked, ∃ w' ∈ l'.asked,
    CountsWithin s.site s.running s.world.events (some q.id)
      (hull l.all) w (hull l'.all) w'

/- The quarter hours of the whole search, to the class's end. -/
def searchSlices
    (s : Surroundings)
    (q : Search)
    (last c₀ : Instant)
    (rest : List Instant) : List (Instant × Instant) :=
  slices (c₀ - s.site.cfg.lead)
    (max last (rest.getLastD c₀ + q.length) + s.site.cfg.grace)

/- What the screening looks at, for a candidate. -/
def screenLook
    (s : Surroundings)
    (q : Search)
    (c : Instant) : Look :=
  match classEnd s.site q.evt, q.candidates s.site.cfg with
  | none, candidates =>
      { all := candidates.map (fun c =>
          heldWindow s.site.cfg c (c + q.length))
        asked := [heldWindow s.site.cfg c (c + q.length)] }
  | some _, [] => ⟨[], []⟩
  | some last, c₀ :: rest =>
      let parts := searchSlices s q last c₀ rest
      let held :=
        heldWindow s.site.cfg c (max (c + q.length) last)
      { all := parts
        asked := parts.filter (fun p =>
          p.1 < held.2 && p.2 > held.1) }

/- What `fit` looks at, for the same one. -/
def fitLook
    (s : Surroundings)
    (q : Search)
    (c : Instant) : Look :=
  let spanEnd := untilClassEnd s.site q.evt (c + q.length)
  let held := heldWindow s.site.cfg c spanEnd
  if spanEnd > c + q.length then
    ⟨slices held.1 held.2, slices held.1 held.2⟩
  else
    ⟨[held], [held]⟩

section

variable {s : Surroundings}
variable {q : Search}

theorem hull_singleton
    (w : Instant × Instant) :
    hull [w] = w :=
  rfl

theorem screenLook_asked
    {c : Instant}
    (hMem : c ∈ q.candidates s.site.cfg) :
    (screenLook s q c).asked ⊆ (screenLook s q c).all := by
  unfold screenLook
  split
  · intro w hw
    rw [List.mem_singleton.mp hw]
    exact List.mem_map.mpr ⟨c, hMem, rfl⟩
  · exact List.Subset.refl _
  · exact List.filter_subset_self _

theorem fitLook_asked
    (c : Instant) :
    (fitLook s q c).asked = (fitLook s q c).all := by
  unfold fitLook
  simp only
  split
  · rfl
  · rfl

/- A look that counts less comes to no more. -/
theorem load_le
    {l l' : Look}
    (hAsked : l.asked ⊆ l.all)
    (hAsked' : l'.asked ⊆ l'.all)
    (hWithin : l.Within s q l')
    (r : Resource) :
    l.load s q r ≤ l'.load s q r := by
  apply Loads.peak_le
  intro load hLoad
  rcases List.mem_map.mp hLoad with ⟨w, hMem, rfl⟩
  rcases hWithin w hMem with ⟨w', hMem', hCounts⟩
  have hIn := hull_le (hAsked hMem)
  have hIn' := hull_le (hAsked' hMem')
  exact (counted_le hIn.1 hIn.2 hIn'.1 hIn'.2 hCounts r).trans
    (Loads.le_peak (List.mem_map.mpr ⟨w', hMem', rfl⟩))

theorem mostCommitted_load
    (rows : List Committed)
    (r : Resource) :
    (mostCommitted rows).resources.get r =
      Loads.peak (rows.map (fun c => c.resources.get r)) := by
  cases r with
  | vcpu => rfl
  | ram => rfl
  | disk => rfl

/- What `fit` counts is what it looks at. -/
theorem fits_iff
    (c : Instant) :
    (fit s.site s.supply s.running s.world.events q.id q.evt c
        (c + q.length)).fits = true ↔
      ∀ r, q.evt.size.get r ≤
        s.supply.get r - (fitLook s q c).load s q r := by
  unfold fit assess Assessment.fits
  simp only
  rw [decide_eq_true_eq, shortfalls_nil_iff]
  simp only [available_get]
  unfold fitLook Look.load
  simp only
  by_cases hPeak :
      untilClassEnd s.site q.evt (c + q.length) > c + q.length
  · simp only [hPeak, decide_true, if_true]
    unfold peakCommitted
    rw [committedMany_eq]
    simp only [mostCommitted_load, List.map_map]
    rfl
  · simp only [hPeak, decide_false, Bool.false_eq_true,
      if_false]
    simp only [List.map_cons, List.map_nil, hull_singleton]
    simp only [Loads.peak, List.foldr_cons, List.foldr_nil,
      Nat.max_zero]
    rfl

/- What the screening finds committed for a candidate. -/
def screened
    (s : Surroundings)
    (q : Search)
    (c : Instant) : Committed :=
  let found :=
    (screenLook s q c).asked.map
      (counted s.site s.running s.world.events (some q.id)
        (hull (screenLook s q c).all))
  match classEnd s.site q.evt, found with
  | none, [com] => com
  | _, found => mostCommitted found

theorem screened_get
    (c : Instant)
    (r : Resource) :
    (screened s q c).resources.get r =
      (screenLook s q c).load s q r := by
  unfold screened Look.load
  simp only
  split
  · rename_i hFound
    rw [show (fun w : Instant × Instant =>
        (counted s.site s.running s.world.events (some q.id)
          (hull (screenLook s q c).all) w).resources.get r) =
      (fun com : Committed => com.resources.get r) ∘
        counted s.site s.running s.world.events (some q.id)
          (hull (screenLook s q c).all) from rfl,
      ← List.map_map, hFound]
    simp only [Loads.peak, List.map_cons, List.map_nil,
      List.foldr_cons, List.foldr_nil, Nat.max_zero]
  · rw [mostCommitted_load, List.map_map]
    rfl

/- The screening answers for each candidate by itself. -/
theorem screen_eq :
    screen s q (q.candidates s.site.cfg) =
      (q.candidates s.site.cfg).map (screened s q) := by
  cases hEnd : classEnd s.site q.evt with
  | none =>
      have hScreen :
          screen s q (q.candidates s.site.cfg) =
            committedMany s.site s.running s.world.events
              ((q.candidates s.site.cfg).map (fun c =>
                heldWindow s.site.cfg c (c + q.length)))
              (some q.id) := by
        unfold screen
        rw [hEnd]
      rw [hScreen, committedMany_eq, List.map_map]
      apply List.map_congr_left
      intro c _
      unfold screened screenLook
      simp only [hEnd, List.map_cons, List.map_nil]
      rfl
  | some last =>
      cases hAll : q.candidates s.site.cfg with
      | nil =>
          unfold screen
          rw [hEnd]
          rfl
      | cons c₀ rest =>
          unfold screen
          simp only [hEnd]
          apply List.map_congr_left
          intro c _
          rw [committedMany_eq, ← List.map_prod_left_eq_zip,
            List.filter_map, List.map_map]
          unfold screened screenLook
          simp only [hEnd, hAll]
          rfl

end

--------
-- The Earliest Start
--------

/- The earliest start at which the booking may be. -/
structure Earliest
    (s : Surroundings)
    (q : Search)
    (c : Instant) : Prop where
  start : q.Start s.site.cfg c
  acceptable : Acceptable s q c
  least : ∀ c', q.Start s.site.cfg c' → Acceptable s q c' →
    c ≤ c'

section

variable {s : Surroundings}
variable {q : Search}

/- The slot is the first candidate that passes. -/
theorem nextFreeSlot_eq :
    (nextFreeSlot s q).1 =
      ((q.candidates s.site.cfg).find? (fun c =>
        passes s q
          (blockedSpans s q (q.first s.site.cfg)
            (q.horizon s.site.cfg + q.length))
          (maintenanceSpans s q
            (q.first s.site.cfg - s.site.cfg.lead)
            (q.horizon s.site.cfg + q.length))
          (c, screened s q c))).map (fun c =>
            (c, c + q.length)) := by
  unfold nextFreeSlot
  simp only
  rw [screen_eq, ← List.map_prod_left_eq_zip, List.find?_map,
    Option.map_map]
  rfl

theorem slot_of_some
    {slot : Instant × Instant}
    (hSlot : (nextFreeSlot s q).1 = some slot) :
    slot.2 = slot.1 + q.length ∧
      q.Start s.site.cfg slot.1 ∧
      Acceptable s q slot.1 ∧
      Roomy s q (screened s q slot.1) ∧
      ∀ c, q.Start s.site.cfg c → Acceptable s q c →
        Roomy s q (screened s q c) → slot.1 ≤ c := by
  rw [nextFreeSlot_eq] at hSlot
  rcases Option.map_eq_some_iff.mp hSlot with ⟨c, hFind, rfl⟩
  have hMem := List.mem_of_find?_eq_some hFind
  have hFound := List.find?_some hFind
  have hPasses := (passes_iff hMem).mp hFound
  refine ⟨rfl, mem_candidates.mp hMem, hPasses.2, hPasses.1, ?_⟩
  intro c' hStart hAcceptable hRoomy
  have hMem' := mem_candidates.mpr hStart
  exact Grid.find?_least (Grid.pairwise_upTo slotStep_pos) hFind
    c' hMem' ((passes_iff hMem').mpr ⟨hRoomy, hAcceptable⟩)

theorem none_of_none
    (hSlot : (nextFreeSlot s q).1 = none)
    {c : Instant}
    (hStart : q.Start s.site.cfg c)
    (hRoomy : Roomy s q (screened s q c)) :
    ¬Acceptable s q c := by
  intro hAcceptable
  rw [nextFreeSlot_eq, Option.map_eq_none_iff] at hSlot
  have hMem := mem_candidates.mpr hStart
  exact List.find?_eq_none.mp hSlot c hMem
    ((passes_iff hMem).mpr ⟨hRoomy, hAcceptable⟩)

/- Where there is a start for it, there is an earliest one. -/
theorem exists_earliest
    {c : Instant}
    (hStart : q.Start s.site.cfg c)
    (hAcceptable : Acceptable s q c) :
    ∃ c', Earliest s q c' := by
  classical
  cases hFind :
      (q.candidates s.site.cfg).find? (fun c =>
        decide (Acceptable s q c)) with
  | none =>
      have hNot := List.find?_eq_none.mp hFind c
        (mem_candidates.mpr hStart)
      exact absurd (decide_eq_true hAcceptable) hNot
  | some c' =>
      have hFound := List.find?_some hFind
      refine ⟨c', mem_candidates.mp
        (List.mem_of_find?_eq_some hFind),
        of_decide_eq_true hFound, ?_⟩
      intro c'' hStart' hAcceptable'
      exact Grid.find?_least (Grid.pairwise_upTo slotStep_pos)
        hFind c'' (mem_candidates.mpr hStart')
        (decide_eq_true hAcceptable')

/- The search is exact just when it screens that one well. -/
theorem exact_iff :
    Exact s q (nextFreeSlot s q).1 ↔
      ∀ c, Earliest s q c → Roomy s q (screened s q c) := by
  constructor
  · intro hExact c hEarliest
    cases hSlot : (nextFreeSlot s q).1 with
    | none =>
        rw [hSlot] at hExact
        exact absurd hEarliest.acceptable
          (hExact c hEarliest.start)
    | some slot =>
        rw [hSlot] at hExact
        rcases hExact with ⟨_, hStart, hAcceptable, hLeast⟩
        have hSame : slot.1 = c :=
          le_antisymm
            (hLeast c hEarliest.start hEarliest.acceptable)
            (hEarliest.least slot.1 hStart hAcceptable)
        rw [← hSame]
        exact (slot_of_some hSlot).2.2.2.1
  · intro hRoomy
    cases hSlot : (nextFreeSlot s q).1 with
    | none =>
        intro c hStart hAcceptable
        rcases exists_earliest hStart hAcceptable with
          ⟨c', hEarliest⟩
        exact none_of_none hSlot hEarliest.start
          (hRoomy c' hEarliest) hEarliest.acceptable
    | some slot =>
        rcases slot_of_some hSlot with
          ⟨hLength, hStart, hAcceptable, _, hFirst⟩
        refine ⟨hLength, hStart, hAcceptable, ?_⟩
        intro c hStart' hAcceptable'
        rcases exists_earliest hStart' hAcceptable' with
          ⟨c', hEarliest⟩
        exact (hFirst c' hEarliest.start hEarliest.acceptable
          (hRoomy c' hEarliest)).trans
            (hEarliest.least c hStart' hAcceptable')

/- A screening that counts nothing more leaves the room. -/
theorem roomy_of_within
    {c : Instant}
    (hStart : q.Start s.site.cfg c)
    (hAcceptable : Acceptable s q c)
    (hWithin :
      (screenLook s q c).Within s q (fitLook s q c)) :
    Roomy s q (screened s q c) := by
  have hFits := hAcceptable.fits
  unfold fitOk at hFits
  rw [Bool.and_eq_true] at hFits
  intro r
  have hRoom := (fits_iff c).mp hFits.2 r
  have hAsked :
      (fitLook s q c).asked ⊆ (fitLook s q c).all := by
    rw [fitLook_asked c]
    exact List.Subset.refl _
  have hLoad :=
    load_le (screenLook_asked (mem_candidates.mpr hStart))
      hAsked hWithin r
  rw [screened_get]
  omega

end

end Scheduler

end TrueNorth

--------
-- A Late Session
--------

namespace TrueNorth

namespace Scheduler

namespace LateSession

/- The day the class ends on is over; a session is to come. -/
def events : Dict Nat ScheduledEvent :=
  (Dict.empty.set 1 (AfterClass.session .scheduled 2)).set 2
    (AfterClass.session .scheduled 30)

def surroundings
    (events : Dict Nat ScheduledEvent) : Surroundings where
  site := AfterClass.site
  -- two seats of the class's template, and no more
  supply := ⟨8, 16384, 160⟩
  running := .idle
  world := { World.fresh .empty .empty with events := events }
  outside :=
    { strip := fun text => text
      lower := String.toLower
      load := fun _ => some .other }
  upkeep :=
    { windows := []
      ranges := Table.empty
      templates := Table.empty }
  uuid := fun _ =>
    ⟨"00000000-0000-4000-8000-000000000001", by decide⟩

/- An hour for a booking of its own, from day five, 22:00. -/
def query : Search where
  id := 9
  evt :=
    { AfterClass.session .draft 5 with
      startTime := AfterClass.moment 5 22
      endTime := AfterClass.moment 5 23
      templateId := none
      session := none
      approval := none
      size := ⟨1, 1024, 10⟩ }
  now := AfterClass.moment 5 0
  after := none
  within := none
  days := 1

/- At one on the next day, the class's hold is not counted. -/
theorem acceptable_at_one :
    query.Start AfterClass.site.cfg (AfterClass.moment 6 1) ∧
      Acceptable (surroundings events) query
        (AfterClass.moment 6 1) := by
  have hFits :
      fitOk (surroundings events) query (AfterClass.moment 6 1)
        (AfterClass.moment 6 1 + query.length) = true := by
    decide
  refine ⟨⟨?_, by decide, ?_, by decide⟩,
    hFits, by decide +kernel, not_busy_of_fits hFits⟩
  · exact Int.dvd_of_emod_eq_zero (by decide)
  · intro days hNone
    cases hNone

end LateSession

end Scheduler

end TrueNorth
