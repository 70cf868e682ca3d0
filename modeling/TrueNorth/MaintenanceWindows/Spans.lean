import TrueNorth.MaintenanceWindows.Covering

/-
  The spans of the windows that would hold a booking's range
  (maintenance_windows/service.py `booking_spans`), for the
  scheduler to step around.

  Key definition:
    * `Service.bookingSpans`

  Main theorem:
    * `Service.bookingSpans_narrow`
-/

--------
-- Spans
--------

namespace TrueNorth

namespace MaintenanceWindows

/- The range with an id. -/
def Database.range?
    (db : Database)
    (id : Uuid) : Option Range :=
  db.ranges.rows.find? (fun r => r.id = id)

namespace Service

variable (py : Outside)

/- The template of the range that is booked, if there is one. -/
def bookedTemplate
    (db : Database)
    (rangeId templateId : Option Uuid) : Option Uuid :=
  match rangeId.bind db.range? with
  | some rng => some rng.templateId
  | none => templateId

def bookingSpans
    (db : Database)
    (tenantId rangeId templateId : Option Uuid)
    (start stop : Instant) : List (Instant × Instant) :=
  (covering py (candidates db tenantId start stop) tenantId
    rangeId
    (rangeTags py db
      (bookedTemplate db rangeId templateId))).map
        (fun w => (w.startsAt, w.endsAt))

theorem mem_bookingSpans
    (db : Database)
    (tenantId rangeId templateId : Option Uuid)
    (start stop : Instant)
    (span : Instant × Instant) :
    span ∈ bookingSpans py db tenantId rangeId templateId start
        stop ↔
      span.1 < stop ∧ start < span.2 ∧
        ∃ w ∈ db.windows,
          (w.tenantId = none ∨
            (tenantId ≠ none ∧ w.tenantId = tenantId)) ∧
          Policy.applies py w.tenantId w.scope w.rangeIds w.tags
            rangeId tenantId
            (some (rangeTags py db
              (bookedTemplate db rangeId templateId))) = true ∧
          span = (w.startsAt, w.endsAt) := by
  unfold bookingSpans
  rw [List.mem_map]
  constructor
  · rintro ⟨w, hCovers, rfl⟩
    rcases (covering_iff py _ _ _ _ w).mp hCovers with
      ⟨hMem, hApplies⟩
    rw [candidates, mem_latestFirst, List.mem_filter,
      decide_eq_true_eq] at hMem
    rcases hMem with ⟨hMem, hTenant, hStart, hStop⟩
    exact ⟨hStart, hStop, w, hMem, hTenant, hApplies, rfl⟩
  · rintro ⟨hStart, hStop, w, hMem, hTenant, hApplies, rfl⟩
    refine ⟨w, (covering_iff py _ _ _ _ w).mpr ⟨?_, hApplies⟩,
      rfl⟩
    rw [candidates, mem_latestFirst, List.mem_filter,
      decide_eq_true_eq]
    exact ⟨hMem, hTenant, hStart, hStop⟩

/- The spans of a long stretch, for a part of it. -/
theorem bookingSpans_narrow
    (db : Database)
    (tenantId rangeId templateId : Option Uuid)
    {start stop start' stop' : Instant}
    (hStart : start ≤ start')
    (hStop : stop' ≤ stop) :
    (∃ span ∈ bookingSpans py db tenantId rangeId templateId
        start stop,
      span.1 < stop' ∧ start' < span.2) ↔
      bookingSpans py db tenantId rangeId templateId start'
        stop' ≠ [] := by
  constructor
  · rintro ⟨span, hMem, hBefore, hAfter⟩
    rcases (mem_bookingSpans py db _ _ _ _ _ span).mp hMem with
      ⟨_, _, hWindow⟩
    exact List.ne_nil_of_mem
      ((mem_bookingSpans py db _ _ _ _ _ span).mpr
        ⟨hBefore, hAfter, hWindow⟩)
  · intro hSome
    rcases List.exists_mem_of_ne_nil _ hSome with ⟨span, hMem⟩
    rcases (mem_bookingSpans py db _ _ _ _ _ span).mp hMem with
      ⟨hBefore, hAfter, hWindow⟩
    refine ⟨span, ?_, hBefore, hAfter⟩
    exact (mem_bookingSpans py db _ _ _ _ _ span).mpr
      ⟨Int.lt_of_lt_of_le hBefore hStop,
        Int.lt_of_le_of_lt hStart hAfter, hWindow⟩

end Service

end MaintenanceWindows

end TrueNorth
