import TrueNorth.RangeAlloc.Exclusive

/-
  What one call does to the rows: which range rows it
  frees, which external rows it expires or drops, and what
  it records.

  Key definitions include:
    * `Call.sees`, `Call.stamp`
    * `World.frees`, `World.expires`, `World.drops`
    * `Effect`

  Main theorems:
    * `Worker.recordExternal_effect`
    * `World.result_effect`
-/

--------
-- What a Call Deletes
--------

namespace TrueNorth

namespace RangeAlloc

/- The read found the value in use, by whomever. -/
def Usage.sees
    (usage : Usage)
    (v : String) : Bool :=
  v ∈ usage.foreign.keys || v ∈ usage.managed.keys

namespace Call

/- The call finds the value in use outside TrueNorth. -/
def sees
    (domain kind v : String) :
    Call → Bool
| .recordExternal usage =>
    usage.domain = domain && usage.kind = kind && usage.sees v
| .releaseConflict _ conflict =>
    conflict.domain = domain && kind = "vlan" &&
      v ∈ conflict.vlans.map Prod.fst
| _ => false

/- When what the call records was last seen. -/
def stamp
    (now : Int) :
    Call → Int
| .recordExternal usage => usage.seenAt now
| _ => now

end Call

namespace World

/- The call frees this row of a range. -/
def frees
    (w : World)
    (r : Row) :
    Call → Bool
| .reserveValues request prune _ =>
    (prune && r.heldBy request.rangeId &&
      r.kind = request.kind && r.holder ∉ request.holders) ||
    (newHolders (Worker.released w.table request prune)
        request ≠ [] &&
      r.isIn request.domain request.kind &&
      r.isGone w.destroyed)
| .recordExternal usage =>
    r.isIn usage.domain usage.kind && r.isGone w.destroyed
| .releaseConflict rangeId conflict =>
    (r.heldBy rangeId && r.isIn conflict.domain "vlan" &&
      r.value ∈ conflict.release) ||
    (r.isIn conflict.domain "vlan" && r.isGone w.destroyed)
| .releaseDestroyedRange rangeId =>
    r.heldBy rangeId && r.isGone w.destroyed
| .reserve request =>
    newHolders w.table request ≠ [] &&
      r.isIn request.domain request.kind &&
      r.isGone w.destroyed
| .sync request =>
    (r.heldBy request.rangeId && r.kind = request.kind &&
      Api.isStale request r) ||
    (newHolders (Api.released w.table request) request ≠ [] &&
      r.isIn request.domain request.kind &&
      r.isGone w.destroyed)
| .releaseRange rangeId => r.heldBy rangeId

/- A live read expires this row of another source. -/
def expires
    (w : World)
    (r : Row) :
    Call → Bool
| .recordExternal usage =>
    r.isIn usage.domain usage.kind && r.isExternal &&
      r.updatedAt < w.now - externalTtl &&
      !r.startsWith (sourcePrefix usage.source)
| _ => false

/- A live read drops this row of its own source. -/
def drops
    (r : Row) :
    Call → Bool
| .recordExternal usage =>
    r.isIn usage.domain usage.kind && r.isExternal &&
      r.startsWith (sourcePrefix usage.source) &&
      !usage.sees r.value &&
      usage.readAt.any (fun readAt => r.updatedAt < readAt)
| _ => false

end World

end RangeAlloc

end TrueNorth

--------
-- Effects
--------

namespace TrueNorth

namespace RangeAlloc

/- The row is seen again, no earlier. -/
def Row.Refreshed (r r' : Row) : Prop :=
  r' = r.seen r'.updatedAt ∧ r.updatedAt ≤ r'.updatedAt

/-
  What a call makes of the table `w.table`, leaving `t`.
-/
structure Effect
    (w : World)
    (c : Call)
    (t : Reservations) : Prop where
  -- a range keeps its row, or it is freed
  range : ∀ r ∈ w.table.rows, r.isExternal = false →
    r ∈ t.rows ∨ w.frees r c = true
  -- an external row stays, or is expired or dropped
  external : ∀ r ∈ w.table.rows, r.isExternal = true →
    (∃ r' ∈ t.rows, r.Refreshed r') ∨
      w.expires r c = true ∨ World.drops r c = true
  -- what the call sees has a row
  recorded : ∀ domain kind v,
    c.sees domain kind v = true →
      ∃ r ∈ t.rows, r.isIn domain kind = true ∧ r.value = v
  -- an external row was there, or its value had none
  origin : ∀ r' ∈ t.rows, r'.isExternal = true →
    (∃ r ∈ w.table.rows, r.Refreshed r') ∨
      r'.updatedAt = c.stamp w.now ∧
      ∀ r ∈ w.table.rows, r.SameValue r' →
        w.frees r c = true ∨ w.expires r c = true
  -- the source's rows of what a read finds are touched
  touched : ∀ read ∈ c.reads w.now,
    ∀ r' ∈ t.rows, r'.isExternal = true →
      r'.isIn read.domain read.kind = true →
      r'.startsWith (sourcePrefix read.source) = true →
      r'.value ∈ read.foreign →
        read.seenAt ≤ r'.updatedAt
  -- what a read finds it sees
  found : ∀ read ∈ c.reads w.now,
    read.seenAt = c.stamp w.now ∧
    ∀ v ∈ read.foreign,
      c.sees read.domain read.kind v = true

theorem Row.Refreshed.refl
    (r : Row) :
    r.Refreshed r :=
  ⟨rfl, Int.le_refl _⟩

theorem Row.isExternal_of_isGone
    {destroyed : List Nat}
    {r : Row}
    (hGone : r.isGone destroyed = true) :
    r.isExternal = false := by
  unfold Row.isGone at hGone
  unfold Row.isExternal
  cases hRange : r.rangeId with
  | none =>
      rw [hRange] at hGone
      cases hGone
  | some rangeId => rfl

theorem Row.isExternal_of_heldBy
    {rangeId : Nat}
    {r : Row}
    (hHeld : r.heldBy rangeId = true) :
    r.isExternal = false := by
  unfold Row.heldBy at hHeld
  unfold Row.isExternal
  rw [decide_eq_true_eq] at hHeld
  rw [hHeld]
  rfl

/- A call that only frees ranges' rows and reserves new ones. -/
theorem effect_of_frees
    {w : World}
    {c : Call}
    {t : Reservations}
    (hReads : c.reads w.now = [])
    (hSees : ∀ domain kind v, c.sees domain kind v = false)
    (hFrees : ∀ r, w.frees r c = true → r.isExternal = false)
    (hStays : ∀ r ∈ w.table.rows,
      r ∈ t.rows ∨ w.frees r c = true)
    (hOrigin : ∀ r' ∈ t.rows, r'.isExternal = true →
      r' ∈ w.table.rows) :
    Effect w c t := by
  constructor
  case range => exact fun r hr _ => hStays r hr
  case external =>
    intro r hr hExternal
    rcases hStays r hr with hKept | hFreed
    · exact .inl ⟨r, hKept, .refl r⟩
    · rw [hFrees r hFreed] at hExternal
      cases hExternal
  case recorded =>
    intro domain kind v hSeen
    rw [hSees] at hSeen
    cases hSeen
  case origin =>
    intro r' hr' hExternal
    exact .inl ⟨r', hOrigin r' hr' hExternal, .refl r'⟩
  case touched =>
    intro read hRead
    rw [hReads] at hRead
    cases hRead
  case found =>
    intro read hRead
    rw [hReads] at hRead
    cases hRead

--------
-- Releases and Reservations
--------

/- An allotment frees destroyed ranges' rows only. -/
theorem Allots.stays
    {destroyed : List Nat}
    {now : Int}
    {request : Request}
    {mine : Dict String String}
    {excluded : List String}
    {t t' : Reservations}
    {got : Dict String String}
    {pairs : List (String × String)}
    (hAllots : Allots destroyed now request mine excluded t t'
      got pairs)
    (hHolds : Holds t request mine)
    {r : Row}
    (hr : r ∈ t.rows) :
    r ∈ t'.rows ∨
      (newHolders t request ≠ [] ∧
        r.isIn request.domain request.kind = true) ∧
          r.isGone destroyed = true := by
  by_cases hKept : r ∈ t'.rows
  · exact .inl hKept
  · right
    rw [hAllots.rows_iff, not_or, ← hHolds.newHolders] at hKept
    have hGone := hKept.1
    simp only [hr, true_and, Classical.not_imp,
      Bool.not_eq_false, Bool.and_eq_true] at hGone
    exact ⟨⟨hGone.1, hGone.2.1⟩, hGone.2.2⟩

/- An allotment adds no external row. -/
theorem Allots.origin
    {destroyed : List Nat}
    {now : Int}
    {request : Request}
    {mine : Dict String String}
    {excluded : List String}
    {t t' : Reservations}
    {got : Dict String String}
    {pairs : List (String × String)}
    (hAllots : Allots destroyed now request mine excluded t t'
      got pairs)
    {r : Row}
    (hr : r ∈ t'.rows)
    (hExternal : r.isExternal = true) :
    r ∈ t.rows := by
  rcases (hAllots.rows_iff r).mp hr with hOld | hNew
  · exact hOld.1
  · rcases hNew with ⟨h, v, _, rfl⟩
    cases hExternal

/- Only rows of ranges are freed. -/
theorem World.frees_range
    {w : World}
    {c : Call}
    {r : Row}
    (hFrees : w.frees r c = true) :
    r.isExternal = false := by
  cases c <;>
    simp only [World.frees, Bool.or_eq_true,
      Bool.and_eq_true] at hFrees
  case reserveValues =>
    rcases hFrees with hPruned | hGone
    · exact Row.isExternal_of_heldBy hPruned.1.1.2
    · exact Row.isExternal_of_isGone hGone.2
  case recordExternal =>
    exact Row.isExternal_of_isGone hFrees.2
  case releaseConflict =>
    rcases hFrees with hReleased | hGone
    · exact Row.isExternal_of_heldBy hReleased.1.1
    · exact Row.isExternal_of_isGone hGone.2
  case releaseDestroyedRange =>
    exact Row.isExternal_of_isGone hFrees.2
  case reserve => exact Row.isExternal_of_isGone hFrees.2
  case sync =>
    rcases hFrees with hStale | hGone
    · exact Row.isExternal_of_heldBy hStale.1.1
    · exact Row.isExternal_of_isGone hGone.2
  case releaseRange => exact Row.isExternal_of_heldBy hFrees

theorem reserveValues_effect
    {w : World}
    {request : Request}
    {prune : Bool}
    {excluded : List String}
    {t : Reservations}
    {got : Dict String String}
    (hReserve :
      Worker.reserveValues w.destroyed w.now w.table request
        prune excluded = .ok (t, got)) :
    Effect w (.reserveValues request prune excluded) t := by
  rcases Worker.reserveValues_allots hReserve with
    ⟨mine, pairs, hHolds, _, hAllots⟩
  apply effect_of_frees rfl (fun _ _ _ => rfl)
    (fun _ => World.frees_range)
  · intro r hr
    simp only [World.frees, Bool.or_eq_true, Bool.and_eq_true]
    by_cases hPruned :
        r ∈ (Worker.released w.table request prune).rows
    · rcases hAllots.stays hHolds hPruned with hKept | hGone
      · exact .inl hKept
      · rw [decide_eq_true_eq, decide_eq_true_eq,
          decide_eq_true_eq]
        exact .inr (.inr hGone)
    · right
      left
      simp only [Worker.released, Table.mem_delete, hr,
        true_and, Bool.not_eq_false, Bool.and_eq_true]
        at hPruned
      exact hPruned
  · intro r hr hExternal
    have hOld := hAllots.origin hr hExternal
    exact (Table.mem_delete.mp hOld).1

theorem reserve_effect
    {w : World}
    {request : Request}
    {t : Reservations}
    {got : Dict String String}
    (hReserve :
      Api.reserve w.destroyed w.now w.table request =
        .ok (t, got)) :
    Effect w (.reserve request) t := by
  rcases Api.reserve_allots hReserve with
    ⟨mine, pairs, hHolds, hAllots⟩
  apply effect_of_frees rfl (fun _ _ _ => rfl)
    (fun _ => World.frees_range)
  · intro r hr
    simp only [World.frees, Bool.and_eq_true,
      decide_eq_true_eq]
    exact hAllots.stays hHolds hr
  · intro r hr hExternal
    exact hAllots.origin hr hExternal

/- `sync`, by what it released first. -/
theorem sync_stays
    {w : World}
    {request : Request}
    {t : Reservations}
    {got : Dict String String}
    (hSync :
      Api.sync w.destroyed w.now w.table request =
        .ok (t, got))
    {r : Row}
    (hr : r ∈ (Api.released w.table request).rows) :
    r ∈ t.rows ∨
      (newHolders (Api.released w.table request) request ≠ [] ∧
        r.isIn request.domain request.kind = true) ∧
          r.isGone w.destroyed = true := by
  simp only [Api.sync] at hSync
  split at hSync
  case isTrue =>
    cases hSync
    exact .inl hr
  case isFalse =>
    rcases Api.reserve_allots hSync with
      ⟨mine, pairs, hHolds, hAllots⟩
    exact hAllots.stays hHolds hr

theorem sync_origin
    {w : World}
    {request : Request}
    {t : Reservations}
    {got : Dict String String}
    (hSync :
      Api.sync w.destroyed w.now w.table request =
        .ok (t, got))
    {r : Row}
    (hr : r ∈ t.rows)
    (hExternal : r.isExternal = true) :
    r ∈ (Api.released w.table request).rows := by
  simp only [Api.sync] at hSync
  split at hSync
  case isTrue =>
    cases hSync
    exact hr
  case isFalse =>
    rcases Api.reserve_allots hSync with
      ⟨mine, pairs, _, hAllots⟩
    exact hAllots.origin hr hExternal

theorem sync_effect
    {w : World}
    {request : Request}
    {t : Reservations}
    {got : Dict String String}
    (hSync :
      Api.sync w.destroyed w.now w.table request =
        .ok (t, got)) :
    Effect w (.sync request) t := by
  apply effect_of_frees rfl (fun _ _ _ => rfl)
    (fun _ => World.frees_range)
  · intro r hr
    simp only [World.frees, Bool.or_eq_true, Bool.and_eq_true]
    by_cases hStale : r ∈ (Api.released w.table request).rows
    · rcases sync_stays hSync hStale with hKept | hGone
      · exact .inl hKept
      · rw [decide_eq_true_eq, decide_eq_true_eq]
        exact .inr (.inr hGone)
    · right
      left
      simp only [Api.released, Table.mem_delete, hr,
        true_and, Bool.not_eq_false, Bool.and_eq_true]
        at hStale
      exact hStale
  · intro r hr hExternal
    have hOld := sync_origin hSync hr hExternal
    exact (Table.mem_delete.mp hOld).1

/- The plain releases. -/
theorem release_effect
    {w : World}
    {c : Call}
    {p : Row → Bool}
    (hReads : c.reads w.now = [])
    (hSees : ∀ domain kind v, c.sees domain kind v = false)
    (hFrees : ∀ r, w.frees r c = p r) :
    Effect w c (w.table.delete p) := by
  apply effect_of_frees hReads hSees
    (fun _ => World.frees_range)
  · intro r hr
    rw [hFrees, Table.mem_delete]
    cases p r <;> simp [hr]
  · intro r hr _
    exact (Table.mem_delete.mp hr).1

--------
-- Live Reads
--------

/- The read wants what it sees and no range holds. -/
theorem Usage.mem_want
    {usage : Usage}
    {held : List String}
    {v : String} :
    v ∈ (usage.want held).keys ↔
      usage.sees v = true ∧ v ∉ held := by
  unfold Usage.want Usage.sees
  simp only [Dict.mem_keys_filter, Dict.mem_keys_setdefaults,
    Dict.mem_keys_mapValues, Bool.or_eq_true,
    decide_eq_true_eq]
  constructor
  · rintro ⟨hForeign | hManaged, hFree⟩
    · exact ⟨.inl hForeign, hFree⟩
    · exact ⟨.inr hManaged.1, hFree⟩
  · rintro ⟨hForeign | hManaged, hFree⟩
    · exact ⟨.inl hForeign, hFree⟩
    · exact ⟨.inr ⟨hManaged, hFree⟩, hFree⟩

theorem mem_rangeHeldValues
    {t : Reservations}
    {domain kind v : String} :
    v ∈ rangeHeldValues t domain kind ↔
      ∃ r ∈ t.rows, r.isIn domain kind = true ∧
        r.isExternal = false ∧ r.value = v := by
  unfold rangeHeldValues
  simp only [List.mem_map, List.mem_filter, Bool.and_eq_true,
    Bool.not_eq_true', and_assoc]

theorem mem_externalReservations
    {t : Reservations}
    {domain kind : String}
    {r : Row} :
    r ∈ externalReservations t domain kind ↔
      r ∈ t.rows ∧ r.isIn domain kind = true ∧
        r.isExternal = true := by
  unfold externalReservations
  rw [List.mem_filter, Bool.and_eq_true]

theorem Row.sameValue_of_isIn
    {domain kind : String}
    {r r' : Row}
    (hIn : r.isIn domain kind = true)
    (hIn' : r'.isIn domain kind = true)
    (hValue : r.value = r'.value) :
    r.SameValue r' := by
  unfold Row.isIn at hIn hIn'
  rw [decide_eq_true_eq] at hIn hIn'
  exact ⟨hIn.1.trans hIn'.1.symm, hIn.2.trans hIn'.2.symm,
    hValue⟩

/- A value is not both a range's and external. -/
theorem not_held_of_external
    {t : Reservations}
    {domain kind : String}
    {r : Row}
    (hr : r ∈ t.rows)
    (hIn : r.isIn domain kind = true)
    (hExternal : r.isExternal = true) :
    r.value ∉ rangeHeldValues t domain kind := by
  intro hHeld
  rcases mem_rangeHeldValues.mp hHeld with
    ⟨r', hr', hIn', hRange, hValue⟩
  have hSame : r' = r :=
    t.eq_of_clash hr' hr
      (.inl (Row.sameValue_of_isIn hIn' hIn hValue))
  rw [hSame, hExternal] at hRange
  cases hRange

namespace Worker

/- The entry the read touches, or leaves as it is. -/
def touch
    (now : Int)
    (usage : Usage)
    (want : Dict String String)
    (r : Row) : Row :=
  if (r.isIn usage.domain usage.kind = true ∧
      r.isExternal = true ∧
      r.startsWith (sourcePrefix usage.source) = true ∧
      r.value ∈ want.keys) ∧
    r.updatedAt < usage.seenAt now
  then r.seen (usage.seenAt now)
  else r

theorem touch_refreshed
    (now : Int)
    (usage : Usage)
    (want : Dict String String)
    (r : Row) :
    r.Refreshed (touch now usage want r) := by
  unfold touch
  split
  case isTrue hOlder => exact ⟨rfl, Int.le_of_lt hOlder.2⟩
  case isFalse => exact .refl r

theorem mem_expireExternal
    {t : Reservations}
    {domain kind mark : String}
    {before : Int}
    {r : Row} :
    r ∈ (expireExternal t domain kind mark before).rows ↔
      r ∈ t.rows ∧
        (r.isIn domain kind = true → r.isExternal = true →
          r.startsWith mark = false →
            before ≤ r.updatedAt) := by
  unfold expireExternal
  rw [Table.mem_delete, Bool.eq_false_iff]
  simp only [ne_eq, Bool.and_eq_true, decide_eq_true_eq,
    Bool.not_eq_true', not_and, Bool.not_eq_false, and_imp]
  apply and_congr_right
  intro _
  constructor
  · intro hStays hIn hExternal hOther
    by_contra hBefore
    have hOurs :=
      hStays hIn hExternal (Int.not_le.mp hBefore)
    rw [hOther] at hOurs
    cases hOurs
  · intro hStays hIn hExternal hBefore
    by_contra hOther
    have hLater :=
      hStays hIn hExternal (Bool.eq_false_iff.mpr hOther)
    omega

theorem mem_dropUnseen
    {t : Reservations}
    {ours : List Row}
    {want : Dict String String}
    {readAt : Option Int}
    {r : Row} :
    r ∈ (dropUnseen t ours want readAt).rows ↔
      r ∈ t.rows ∧
        (r ∈ ours → r.value ∉ want.keys →
          ∀ started, readAt = some started →
            started ≤ r.updatedAt) := by
  unfold dropUnseen dropReservationIds
  cases readAt with
  | none => simp
  | some started =>
      rw [Table.mem_delete, Bool.eq_false_iff]
      simp only [ne_eq, Bool.and_eq_true, decide_eq_true_eq,
        List.mem_filter, not_and, and_imp, Int.not_lt,
        Option.some.injEq, forall_eq']

/- An entry neither expired nor dropped stays. -/
theorem mem_refreshExternal
    {now : Int}
    {t : Reservations}
    {usage : Usage}
    {want : Dict String String}
    {r' : Row} :
    r' ∈ (refreshExternal now t usage want).rows ↔
      ∃ r ∈ t.rows,
        (r.isIn usage.domain usage.kind = true →
          r.isExternal = true →
          (r.startsWith (sourcePrefix usage.source) = false →
            now - externalTtl ≤ r.updatedAt) ∧
          (r.startsWith (sourcePrefix usage.source) = true →
            r.value ∉ want.keys →
            ∀ readAt, usage.readAt = some readAt →
              readAt ≤ r.updatedAt)) ∧
        touch now usage want r = r' := by
  have hOurs : ∀ (r : Row) (t' : Reservations),
      r ∈ t'.rows →
        (r ∈ (externalReservations t' usage.domain
            usage.kind).filter
              (Row.startsWith (sourcePrefix usage.source)) ↔
          r.isIn usage.domain usage.kind = true ∧
            r.isExternal = true ∧
            r.startsWith (sourcePrefix usage.source) =
              true) := by
    intro r t' hr
    rw [List.mem_filter, mem_externalReservations, and_assoc,
      and_assoc, and_iff_right hr]
  simp only [refreshExternal, touchReservationIds,
    Table.mem_update, mem_dropUnseen, mem_expireExternal]
  apply exists_congr
  intro r
  constructor
  · rintro ⟨⟨⟨hr, hLive⟩, hSeen⟩, hTouch⟩
    have hExpired := hOurs r _
      (mem_expireExternal.mpr ⟨hr, hLive⟩)
    refine ⟨hr, ?_, ?_⟩
    · intro hIn hExternal
      refine ⟨hLive hIn hExternal, ?_⟩
      intro hStarts
      exact hSeen (hExpired.mpr ⟨hIn, hExternal, hStarts⟩)
    · simp only [List.mem_filter, hExpired,
        decide_eq_true_eq, and_assoc] at hTouch
      simp only [touch, and_assoc]
      exact hTouch
  · rintro ⟨hr, hStays, hTouch⟩
    have hLive : r.isIn usage.domain usage.kind = true →
        r.isExternal = true →
        r.startsWith (sourcePrefix usage.source) = false →
          now - externalTtl ≤ r.updatedAt :=
      fun hIn hExternal => (hStays hIn hExternal).1
    have hExpired := hOurs r _
      (mem_expireExternal.mpr ⟨hr, hLive⟩)
    refine ⟨⟨⟨hr, hLive⟩, ?_⟩, ?_⟩
    · intro hMem
      rcases hExpired.mp hMem with ⟨hIn, hExternal, hStarts⟩
      exact (hStays hIn hExternal).2 hStarts
    · simp only [List.mem_filter, hExpired,
        decide_eq_true_eq, and_assoc]
      simp only [touch, and_assoc] at hTouch
      exact hTouch

end Worker

end RangeAlloc

end TrueNorth

--------
-- The Table Around a Live Read
--------

namespace TrueNorth

namespace RangeAlloc

namespace World

/- The table without destroyed ranges' rows. -/
def freed
    (w : World)
    (usage : Usage) : Reservations :=
  (takenReservationValues w.destroyed w.table usage.domain
    usage.kind).1

/- What the read wants recorded. -/
def wanted
    (w : World)
    (usage : Usage) : Dict String String :=
  usage.want
    (rangeHeldValues (w.freed usage) usage.domain usage.kind)

/- The table before the read's new entries. -/
def refreshed
    (w : World)
    (usage : Usage) : Reservations :=
  Worker.refreshExternal w.now (w.freed usage) usage
    (w.wanted usage)

theorem mem_freed
    {w : World}
    {usage : Usage}
    {r : Row} :
    r ∈ (w.freed usage).rows ↔
      r ∈ w.table.rows ∧
        (r.isIn usage.domain usage.kind &&
          r.isGone w.destroyed) = false :=
  Table.mem_delete

theorem freed_of_external
    {w : World}
    {usage : Usage}
    {r : Row}
    (hr : r ∈ w.table.rows)
    (hExternal : r.isExternal = true) :
    r ∈ (w.freed usage).rows := by
  apply mem_freed.mpr
  refine ⟨hr, ?_⟩
  cases hGone : r.isGone w.destroyed with
  | false => rw [Bool.and_false]
  | true =>
      rw [Row.isExternal_of_isGone hGone] at hExternal
      cases hExternal

/- An external row the read sees is one it wants. -/
theorem mem_wanted
    {w : World}
    {usage : Usage}
    {r : Row}
    (hr : r ∈ w.table.rows)
    (hExternal : r.isExternal = true)
    (hIn : r.isIn usage.domain usage.kind = true) :
    r.value ∈ (w.wanted usage).keys ↔
      usage.sees r.value = true := by
  unfold wanted
  rw [Usage.mem_want]
  apply and_iff_left
  exact not_held_of_external
    (freed_of_external hr hExternal) hIn hExternal

/- An external row stays unless it expires or is dropped. -/
theorem refreshed_of_external
    {w : World}
    {usage : Usage}
    {r : Row}
    (hr : r ∈ w.table.rows)
    (hExternal : r.isExternal = true) :
    Worker.touch w.now usage (w.wanted usage) r ∈
        (w.refreshed usage).rows ∨
      w.expires r (.recordExternal usage) = true ∨
      drops r (.recordExternal usage) = true := by
  by_cases hExpires :
      w.expires r (.recordExternal usage) = true
  · exact .inr (.inl hExpires)
  by_cases hDrops : drops r (.recordExternal usage) = true
  · exact .inr (.inr hDrops)
  left
  apply Worker.mem_refreshExternal.mpr
  refine ⟨r, freed_of_external hr hExternal, ?_, rfl⟩
  intro hIn _
  constructor
  · intro hOther
    by_contra hOld
    apply hExpires
    simp [expires, hIn, hExternal, hOther,
      Int.not_le.mp hOld]
  · intro hOurs hUnseen started hStarted
    by_contra hOld
    rw [mem_wanted hr hExternal hIn] at hUnseen
    apply hDrops
    simp [drops, hIn, hExternal, hOurs, hUnseen, hStarted,
      Int.not_le.mp hOld]

/- A range's row that is not freed stays as it is. -/
theorem refreshed_of_range
    {w : World}
    {usage : Usage}
    {r : Row}
    (hr : r ∈ (w.freed usage).rows)
    (hRange : r.isExternal = false) :
    r ∈ (w.refreshed usage).rows := by
  apply Worker.mem_refreshExternal.mpr
  refine ⟨r, hr, ?_, ?_⟩
  · intro _ hExternal
    rw [hRange] at hExternal
    cases hExternal
  · unfold Worker.touch
    rw [hRange]
    simp

/- Every row left was there, refreshed. -/
theorem of_refreshed
    {w : World}
    {usage : Usage}
    {r' : Row}
    (hr' : r' ∈ (w.refreshed usage).rows) :
    ∃ r ∈ w.table.rows,
      Worker.touch w.now usage (w.wanted usage) r = r' ∧
        r.Refreshed r' := by
  rcases Worker.mem_refreshExternal.mp hr' with
    ⟨r, hr, _, hTouch⟩
  refine ⟨r, (mem_freed.mp hr).1, hTouch, ?_⟩
  rw [← hTouch]
  exact Worker.touch_refreshed _ _ _ r

/- The rows a live read leaves, and the ones it adds. -/
theorem recordExternal_rows
    {w : World}
    {usage : Usage}
    {t : Reservations}
    {got : Dict String String}
    (hRecord :
      Worker.recordExternal w.destroyed w.now w.table usage =
        .ok (t, got)) :
    (∀ r ∈ (w.refreshed usage).rows, r ∈ t.rows) ∧
    (∀ r ∈ t.rows, r ∈ (w.refreshed usage).rows ∨
      ∃ v holder, v ∈ (w.wanted usage).keys ∧
        (∀ r' ∈ externalReservations (w.refreshed usage)
          usage.domain usage.kind, r'.value ≠ v) ∧
        r = externalRow usage.domain usage.kind
          (usage.seenAt w.now) v holder) ∧
    ∀ v ∈ (w.wanted usage).keys, ∃ r ∈ t.rows,
      r.isIn usage.domain usage.kind = true ∧ r.value = v := by
  simp only [Worker.recordExternal] at hRecord
  split at hRecord
  case h_1 => cases hRecord
  case h_2 t' hInsert =>
    cases hRecord
    have hRows :
        t.rows = (w.refreshed usage).rows ++ _ :=
      Table.rows_insert? hInsert
    have hEntry : ∀ v holder,
        (v, holder) ∈ ((w.wanted usage).filter (fun v _ =>
          v ∉ (externalReservations (w.refreshed usage)
            usage.domain usage.kind).map
              Row.value)).entries ↔
          (w.wanted usage).get? v = some holder ∧
          ∀ r ∈ externalReservations (w.refreshed usage)
            usage.domain usage.kind, r.value ≠ v := by
      intro v holder
      rw [← Dict.get?_eq_some_iff, Dict.get?_filter]
      simp
    refine ⟨?_, ?_, ?_⟩
    · intro r hr
      rw [hRows, List.mem_append]
      exact .inl hr
    · intro r hr
      rw [hRows, List.mem_append] at hr
      rcases hr with hOld | hNew
      · exact .inl hOld
      · right
        rcases List.mem_map.mp hNew with
          ⟨⟨v, holder⟩, hMem, rfl⟩
        rcases (hEntry v holder).mp hMem with
          ⟨hGet, hAbsent⟩
        exact ⟨v, holder, Dict.mem_keys.mpr ⟨holder, hGet⟩,
          hAbsent, rfl⟩
    · intro v hv
      by_cases hPresent :
          ∃ r ∈ externalReservations (w.refreshed usage)
            usage.domain usage.kind, r.value = v
      · rcases hPresent with ⟨r, hr, hValue⟩
        rcases mem_externalReservations.mp hr with
          ⟨hMem, hIn, _⟩
        refine ⟨r, ?_, hIn, hValue⟩
        rw [hRows, List.mem_append]
        exact .inl hMem
      · rcases Dict.mem_keys.mp hv with ⟨holder, hGet⟩
        have hAbsent :
            ∀ r ∈ externalReservations (w.refreshed usage)
              usage.domain usage.kind, r.value ≠ v := by
          intro r hr hValue
          exact hPresent ⟨r, hr, hValue⟩
        refine ⟨externalRow usage.domain usage.kind
          (usage.seenAt w.now) v holder, ?_, ?_, rfl⟩
        · rw [hRows, List.mem_append]
          right
          exact List.mem_map.mpr ⟨(v, holder),
            (hEntry v holder).mpr ⟨hGet, hAbsent⟩, rfl⟩
        · simp [Row.isIn, externalRow]

end World

end RangeAlloc

end TrueNorth

--------
-- The Effect of Every Call
--------

namespace TrueNorth

namespace RangeAlloc

theorem Row.SameValue.isIn
    {domain kind : String}
    {r r' : Row}
    (hSame : r.SameValue r')
    (hIn : r'.isIn domain kind = true) :
    r.isIn domain kind = true := by
  unfold Row.isIn at *
  rw [decide_eq_true_eq] at *
  exact ⟨hSame.1.trans hIn.1, hSame.2.1.trans hIn.2⟩

theorem recordExternal_effect
    {w : World}
    {usage : Usage}
    {t : Reservations}
    {got : Dict String String}
    (hRecord :
      Worker.recordExternal w.destroyed w.now w.table usage =
        .ok (t, got)) :
    Effect w (.recordExternal usage) t := by
  rcases World.recordExternal_rows hRecord with
    ⟨hKept, hRows, hWanted⟩
  constructor
  case range =>
    intro r hr hRange
    by_cases hFreed : w.frees r (.recordExternal usage) = true
    · exact .inr hFreed
    · left
      apply hKept
      exact World.refreshed_of_range
        (World.mem_freed.mpr
          ⟨hr, Bool.eq_false_iff.mpr hFreed⟩) hRange
  case external =>
    intro r hr hExternal
    rcases World.refreshed_of_external hr hExternal with
      hStays | hGoes
    · exact .inl ⟨_, hKept _ hStays,
        Worker.touch_refreshed _ _ _ r⟩
    · exact .inr hGoes
  case recorded =>
    intro domain kind v hSeen
    simp only [Call.sees, Bool.and_eq_true,
      decide_eq_true_eq] at hSeen
    rcases hSeen with ⟨⟨rfl, rfl⟩, hSees⟩
    by_cases hHeld : v ∈ rangeHeldValues (w.freed usage)
        usage.domain usage.kind
    · rcases mem_rangeHeldValues.mp hHeld with
        ⟨r, hr, hIn, hRange, hValue⟩
      exact ⟨r, hKept r (World.refreshed_of_range hr hRange),
        hIn, hValue⟩
    · exact hWanted v (Usage.mem_want.mpr ⟨hSees, hHeld⟩)
  case origin =>
    intro r' hr' hExternal
    rcases hRows r' hr' with hOld | hNew
    · rcases World.of_refreshed hOld with ⟨r, hr, _, hRow⟩
      exact .inl ⟨r, hr, hRow⟩
    · right
      rcases hNew with ⟨v, holder, hWant, hAbsent, rfl⟩
      refine ⟨rfl, ?_⟩
      intro r hr hSame
      have hIn : r.isIn usage.domain usage.kind = true :=
        hSame.isIn (by simp [Row.isIn, externalRow])
      have hValue : r.value = v := hSame.2.2
      have hUnheld := (Usage.mem_want.mp hWant).2
      by_cases hFreed :
          w.frees r (.recordExternal usage) = true
      · exact .inl hFreed
      have hMem : r ∈ (w.freed usage).rows :=
        World.mem_freed.mpr
          ⟨hr, Bool.eq_false_iff.mpr hFreed⟩
      cases hOutside : r.isExternal with
      | false =>
          exact absurd (mem_rangeHeldValues.mpr
            ⟨r, hMem, hIn, hOutside, hValue⟩) hUnheld
      | true =>
          rcases World.refreshed_of_external hr hOutside with
            hStays | hExpires | hDrops
          · have hTouched :=
              Worker.touch_refreshed w.now usage
                (w.wanted usage) r
            exfalso
            refine hAbsent _ (mem_externalReservations.mpr
              ⟨hStays, ?_, ?_⟩) ?_
            · rw [hTouched.1]
              exact hIn
            · rw [hTouched.1]
              exact hOutside
            · rw [hTouched.1]
              exact hValue
          · exact .inr hExpires
          · have hSees : usage.sees r.value = true :=
              (World.mem_wanted hr hOutside hIn).mp
                (hValue ▸ hWant)
            simp only [World.drops, hSees, Bool.not_true,
              Bool.and_false, Bool.false_and] at hDrops
            cases hDrops
  case touched =>
    intro read hRead r' hr' hExternal hIn hStarts hFound
    rcases List.mem_singleton.mp hRead with rfl
    rcases hRows r' hr' with hOld | hNew
    · rcases World.of_refreshed hOld with
        ⟨r, hr, hTouch, hRow⟩
      have hSame : r.isExternal = true ∧
          r.isIn usage.domain usage.kind = true ∧
          r.startsWith (sourcePrefix usage.source) = true ∧
          r.value ∈ usage.foreign.keys := by
        rw [hRow.1] at hExternal hIn hStarts hFound
        exact ⟨hExternal, hIn, hStarts, hFound⟩
      rcases hSame with ⟨hExternal, hIn, hStarts, hFound⟩
      have hWant : r.value ∈ (w.wanted usage).keys := by
        apply (World.mem_wanted hr hExternal hIn).mpr
        simp [Usage.sees, hFound]
      rw [← hTouch]
      unfold Worker.touch
      by_cases hOlder : r.updatedAt < usage.seenAt w.now
      · rw [if_pos
          ⟨⟨hIn, hExternal, hStarts, hWant⟩, hOlder⟩]
        exact Int.le_refl _
      · rw [if_neg (fun h => hOlder h.2)]
        exact Int.not_lt.mp hOlder
    · rcases hNew with ⟨v, holder, _, _, rfl⟩
      exact Int.le_refl _
  case found =>
    intro read hRead
    rcases List.mem_singleton.mp hRead with rfl
    refine ⟨rfl, ?_⟩
    intro v hv
    have hForeign : v ∈ usage.foreign.keys := hv
    simp [Call.sees, Usage.sees, Usage.read, hForeign]

theorem releaseConflict_effect
    {w : World}
    {rangeId : Nat}
    {conflict : Worker.Conflict}
    {t : Reservations}
    {got : Dict String String}
    (hRelease :
      Worker.releaseConflict w.destroyed w.now w.table rangeId
        conflict = .ok (t, got)) :
    Effect w (.releaseConflict rangeId conflict) t := by
  simp only [Worker.releaseConflict] at hRelease
  split at hRelease
  case h_1 => cases hRelease
  case h_2 t' hInsert =>
    cases hRelease
    generalize hFreed : (takenReservationValues w.destroyed
      (dropRangeValues w.table rangeId conflict.domain "vlan"
        conflict.release) conflict.domain "vlan") = freed
      at hInsert
    have hRows := Table.rows_insert? hInsert
    have hStays : ∀ r,
        r ∈ freed.1.rows ↔
          r ∈ w.table.rows ∧
            w.frees r (.releaseConflict rangeId conflict) =
              false := by
      intro r
      rw [← hFreed]
      simp only [takenReservationValues, dropRangeValues,
        Table.mem_delete, World.frees, Bool.or_eq_false_iff,
        and_assoc]
    have hTaken : ∀ v,
        v ∈ freed.2 ↔
          ∃ r ∈ freed.1.rows,
            r.isIn conflict.domain "vlan" = true ∧
              r.value = v := by
      intro v
      rw [← hFreed]
      simp only [takenReservationValues, List.mem_map,
        List.mem_filter, and_assoc]
    have hNew : ∀ v,
        v ∈ (Dict.ofPairs ((conflict.vlans.filter
            (fun vlan => vlan.1 ∉ freed.2)).map
          (fun vlan => (vlan.1,
            sourcePrefix conflict.sourceName ++
              vlan.2)))).keys ↔
          v ∈ conflict.vlans.map Prod.fst ∧ v ∉ freed.2 := by
      intro v
      rw [Dict.mem_keys_ofPairs, List.map_map]
      simp only [List.mem_map, List.mem_filter,
        decide_eq_true_eq, Function.comp_apply]
      constructor
      · rintro ⟨vlan, ⟨hMem, hFree⟩, rfl⟩
        exact ⟨⟨vlan, hMem, rfl⟩, hFree⟩
      · rintro ⟨⟨vlan, hMem, rfl⟩, hFree⟩
        exact ⟨vlan, ⟨hMem, hFree⟩, rfl⟩
    constructor
    case range =>
      intro r hr _
      by_cases hGone : w.frees r
          (.releaseConflict rangeId conflict) = true
      · exact .inr hGone
      · left
        rw [hRows, List.mem_append]
        exact .inl ((hStays r).mpr
          ⟨hr, Bool.eq_false_iff.mpr hGone⟩)
    case external =>
      intro r hr hExternal
      left
      refine ⟨r, ?_, .refl r⟩
      rw [hRows, List.mem_append, hStays]
      refine .inl ⟨hr, ?_⟩
      rw [Bool.eq_false_iff]
      intro hGone
      rw [World.frees_range hGone] at hExternal
      cases hExternal
    case recorded =>
      intro domain kind v hSeen
      simp only [Call.sees, Bool.and_eq_true,
        decide_eq_true_eq] at hSeen
      rcases hSeen with ⟨⟨rfl, rfl⟩, hVlan⟩
      by_cases hHeld : v ∈ freed.2
      · rcases (hTaken v).mp hHeld with ⟨r, hr, hRow⟩
        refine ⟨r, ?_, hRow⟩
        rw [hRows, List.mem_append]
        exact .inl hr
      · rcases Dict.mem_keys.mp ((hNew v).mpr ⟨hVlan, hHeld⟩)
          with ⟨holder, hGet⟩
        refine ⟨externalRow conflict.domain "vlan" w.now v
          holder, ?_, ?_, rfl⟩
        · rw [hRows, List.mem_append]
          right
          exact List.mem_map.mpr ⟨(v, holder),
            Dict.get?_eq_some_iff.mp hGet, rfl⟩
        · simp [Row.isIn, externalRow]
    case origin =>
      intro r' hr' _
      rw [hRows, List.mem_append] at hr'
      rcases hr' with hOld | hAdded
      · exact .inl ⟨r', ((hStays r').mp hOld).1, .refl r'⟩
      · right
        rcases List.mem_map.mp hAdded with
          ⟨⟨v, holder⟩, hEntry, rfl⟩
        refine ⟨rfl, ?_⟩
        intro r hr hSame
        left
        by_contra hKept
        have hFree := ((hNew v).mp (Dict.mem_keys.mpr
          ⟨holder, Dict.get?_eq_some_iff.mpr hEntry⟩)).2
        apply hFree
        refine (hTaken v).mpr ⟨r, (hStays r).mpr
          ⟨hr, Bool.eq_false_iff.mpr hKept⟩, ?_, hSame.2.2⟩
        exact hSame.isIn (by simp [Row.isIn, externalRow])
    case touched =>
      intro read hRead
      cases hRead
    case found =>
      intro read hRead
      cases hRead

/- What any call does to the rows. -/
theorem World.result_effect
    {w : World}
    {c : Call}
    {t : Reservations}
    {got : Dict String String}
    (hResult : w.result c = .ok (t, got)) :
    Effect w c t := by
  cases c with
  | reserveValues request prune excluded =>
      exact reserveValues_effect hResult
  | recordExternal usage => exact recordExternal_effect hResult
  | releaseConflict rangeId conflict =>
      exact releaseConflict_effect hResult
  | releaseDestroyedRange rangeId =>
      cases hResult
      exact release_effect rfl (fun _ _ _ => rfl)
        (fun _ => rfl)
  | reserve request => exact reserve_effect hResult
  | sync request => exact sync_effect hResult
  | releaseRange rangeId =>
      cases hResult
      exact release_effect rfl (fun _ _ _ => rfl)
        (fun _ => rfl)

end RangeAlloc

end TrueNorth
