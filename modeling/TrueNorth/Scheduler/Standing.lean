import TrueNorth.Scheduler.Commitments

/-
  What stands once a booking is written, and that the cluster
  is still not overcommitted.

  Key definitions include:
    * `Alike`, `Uncounted`
    * `Safe`
    * `Wellsized`

  Main theorems:
    * `safe_alike`, `safe_uncounted`
    * `safe_plain`, `safe_session`
-/

--------
-- One Booking Written
--------

namespace TrueNorth

namespace Scheduler

/- What the capacity reads of a booking is the same. -/
structure Alike (e e' : ScheduledEvent) : Prop where
  tenantId : e'.tenantId = e.tenantId
  startTime : e'.startTime = e.startTime
  endTime : e'.endTime = e.endTime
  templateId : e'.templateId = e.templateId
  session : e'.session = e.session
  size : e'.size = e.size
  holding : e'.state.holding = e.state.holding
  needsRanges : e'.state.needsRanges = e.state.needsRanges
  rangeId : e.session.isSome = true → e'.rangeId = e.rangeId

theorem Alike.refl (e : ScheduledEvent) : Alike e e where
  tenantId := rfl
  startTime := rfl
  endTime := rfl
  templateId := rfl
  session := rfl
  size := rfl
  holding := rfl
  needsRanges := rfl
  rangeId := fun _ => rfl

theorem Alike.trans
    {e₁ e₂ e₃ : ScheduledEvent}
    (hFirst : Alike e₁ e₂)
    (hSecond : Alike e₂ e₃) : Alike e₁ e₃ where
  tenantId := hSecond.tenantId.trans hFirst.tenantId
  startTime := hSecond.startTime.trans hFirst.startTime
  endTime := hSecond.endTime.trans hFirst.endTime
  templateId := hSecond.templateId.trans hFirst.templateId
  session := hSecond.session.trans hFirst.session
  size := hSecond.size.trans hFirst.size
  holding := hSecond.holding.trans hFirst.holding
  needsRanges := hSecond.needsRanges.trans hFirst.needsRanges
  rangeId := by
    intro hSome
    rw [hSecond.rangeId (by rw [hFirst.session]; exact hSome),
      hFirst.rangeId hSome]

theorem holdKey_none
    {site : Site}
    {e : ScheduledEvent}
    (hPlain : e.session = none) :
    holdKey site e = none := by
  unfold holdKey
  rw [hPlain]

theorem rowKey_none
    {site : Site}
    {since : Option Int}
    {e : ScheduledEvent}
    (hPlain : e.session = none) :
    rowKey site since e = none := by
  unfold rowKey
  rw [holdKey_none hPlain]

theorem Alike.holdKey_eq
    {e e' : ScheduledEvent}
    (hAlike : Alike e e')
    (site : Site) :
    holdKey site e' = holdKey site e := by
  cases hSession : e.session with
  | none =>
      rw [holdKey_none hSession,
        holdKey_none (hAlike.session.trans hSession)]
  | some link =>
      have hRange := hAlike.rangeId (by rw [hSession]; rfl)
      unfold holdKey usesClassRanges
      rw [hAlike.session, hAlike.templateId, hAlike.tenantId,
        hRange]

theorem Alike.rowKey_eq
    {e e' : ScheduledEvent}
    (hAlike : Alike e e')
    (site : Site)
    (since : Option Int) :
    rowKey site since e' = rowKey site since e := by
  unfold rowKey
  rw [hAlike.holdKey_eq, hAlike.needsRanges]

/- A booking that holds nothing. -/
structure Uncounted
    (site : Site)
    (e : ScheduledEvent) : Prop where
  holding : e.state.holding = false
  row : rowKey site none e = none

theorem Uncounted.of_state
    {site : Site}
    {e : ScheduledEvent}
    (hState : e.state.needsRanges = false) :
    Uncounted site e := by
  constructor
  · unfold EventState.needsRanges at hState
    exact (Bool.or_eq_false_iff.mp hState).1
  · cases hRow : rowKey site none e with
    | none => rfl
    | some key =>
        rw [(rowKey_some hRow).2.1] at hState
        cases hState

section

variable {site : Site}
variable {events : Dict Nat ScheduledEvent}
variable {id : Nat}
variable {e e' : ScheduledEvent}

theorem standingPlain_skip
    (site : Site)
    (id : Nat) :
    standingPlain site (some id) =
      (fun entry =>
        if entry.1 = id then none
        else standingPlain site none entry) := by
  funext entry
  unfold standingPlain
  by_cases hId : entry.1 = id
  · rw [if_pos hId, if_neg]
    simp [hId]
  · rw [if_neg hId]
    simp [hId]

/- Nothing stands differently. -/
theorem standing_set_alike
    (hGet : events.get? id = some e)
    (hAlike : Alike e e')
    (skipId : Option Nat)
    (skipKey : Option HoldKey) :
    standing site (events.set id e') skipId skipKey =
      standing site events skipId skipKey := by
  have hKeys :
      groupKeys site none (events.set id e') =
        groupKeys site none events := by
    unfold groupKeys
    rw [Dict.filterMap_set_same hGet
      (hAlike.rowKey_eq site none)]
  have hMembers (key : HoldKey) :
      members site none (events.set id e') key =
        members site none events key := by
    unfold members
    apply Dict.filterMap_set_same hGet
    unfold member?
    rw [hAlike.rowKey_eq, hAlike.holding, hAlike.startTime,
      hAlike.endTime]
  have hHolds :
      standingHold site (events.set id e') =
        standingHold site events := by
    funext key
    unfold standingHold
    rw [hMembers]
  have hPlain :
      (events.set id e').entries.filterMap
          (standingPlain site skipId) =
        events.entries.filterMap (standingPlain site skipId) := by
    apply Dict.filterMap_set_same hGet
    unfold standingPlain
    simp only [hAlike.rowKey_eq, hAlike.holding,
      hAlike.startTime, hAlike.endTime, hAlike.size]
  unfold standing
  rw [hKeys, hHolds, hPlain]

/- What is in no hold was not, and is not now. -/
theorem groupKeys_set
    (hOld : ∀ e, events.get? id = some e →
      rowKey site none e = none)
    (hNew : rowKey site none e' = none) :
    groupKeys site none (events.set id e') =
      groupKeys site none events := by
  unfold groupKeys
  rw [Dict.filterMap_set_none hNew, Dict.filterMap_skip hOld]

theorem members_set
    {key : HoldKey}
    (hOld : ∀ e, events.get? id = some e →
      rowKey site none e ≠ some key)
    (hNew : rowKey site none e' ≠ some key) :
    members site none (events.set id e') key =
      members site none events key := by
  unfold members
  rw [Dict.filterMap_set_none, Dict.filterMap_skip]
  · intro e hGet
    unfold member?
    rw [if_neg (hOld e hGet)]
  · unfold member?
    rw [if_neg hNew]

theorem standingHold_set
    {key : HoldKey}
    (hOld : ∀ e, events.get? id = some e →
      rowKey site none e ≠ some key)
    (hNew : rowKey site none e' ≠ some key) :
    standingHold site (events.set id e') key =
      standingHold site events key := by
  unfold standingHold
  rw [members_set hOld hNew]

/- A booking that holds nothing now takes nothing up. -/
theorem standing_set_uncounted
    (hOld : ∀ e, events.get? id = some e →
      rowKey site none e = none)
    (hNew : Uncounted site e') :
    standing site (events.set id e') none none =
      standing site events (some id) none := by
  have hHolds :
      standingHold site (events.set id e') =
        standingHold site events := by
    funext key
    apply standingHold_set
    · intro e hGet
      rw [hOld e hGet]
      exact Option.some_ne_none key ∘ Eq.symm
    · rw [hNew.row]
      exact Option.some_ne_none key ∘ Eq.symm
  unfold standing
  rw [groupKeys_set hOld hNew.row, hHolds,
    standingPlain_skip, Dict.filterMap_set_none]
  unfold standingPlain
  simp [hNew.holding]

/- A booking that holds by itself takes up its own window. -/
theorem loadAt_set_plain
    (hOld : ∀ e, events.get? id = some e →
      rowKey site none e = none)
    (hNew : rowKey site none e' = none)
    (hHolding : e'.state.holding = true)
    (t : Instant)
    (r : Resource) :
    Loads.loadAt t
        ((standing site (events.set id e') none none).map
          (Held.item r)) =
      optLoad t r
          (some
            { start := e'.startTime - site.cfg.lead
              stop := e'.endTime + site.cfg.grace
              size := e'.size
              uses := [] }) +
        Loads.loadAt t
          ((standing site events (some id) none).map
            (Held.item r)) := by
  have hHolds :
      standingHold site (events.set id e') =
        standingHold site events := by
    funext key
    apply standingHold_set
    · intro e hGet
      rw [hOld e hGet]
      exact Option.some_ne_none key ∘ Eq.symm
    · rw [hNew]
      exact Option.some_ne_none key ∘ Eq.symm
  have hPlain :
      standingPlain site none (id, e') =
        some
          { start := e'.startTime - site.cfg.lead
            stop := e'.endTime + site.cfg.grace
            size := e'.size
            uses := [] } := by
    unfold standingPlain
    simp [hHolding, hNew]
  have hPerm :=
    Loads.loadAt_perm (t := t)
      ((Dict.filterMap_set_some (d := events) hPlain).map
        (Held.item r))
  unfold standing
  rw [groupKeys_set hOld hNew, hHolds, standingPlain_skip]
  simp only [List.map_append, Loads.loadAt_append, hPerm,
    List.map_cons, Loads.loadAt_cons]
  unfold optLoad
  rw [Option.elim_some]
  omega

/- What is left out takes nothing up. -/
theorem loadAt_skip_le
    (skipId : Option Nat)
    (t : Instant)
    (r : Resource) :
    Loads.loadAt t
        ((standing site events skipId none).map
          (Held.item r)) ≤
      Loads.loadAt t
        ((standing site events none none).map
          (Held.item r)) := by
  unfold standing
  simp only [List.map_append, Loads.loadAt_append]
  apply Nat.add_le_add_left
  rw [loadAt_filterMap, loadAt_filterMap]
  apply List.sum_le_sum
  intro entry _
  unfold standingPlain
  by_cases hSkip : some entry.1 ≠ skipId
  · simp [hSkip]
  · simp only [hSkip, decide_false, Bool.and_false,
      Bool.false_eq_true, if_false]
    exact Nat.zero_le _

/-
  The holds, but for one, and that one: where it stands.
-/
theorem loadAt_split
    (skipId : Option Nat)
    (key : HoldKey)
    (t : Instant)
    (r : Resource) :
    Loads.loadAt t
        ((standing site events skipId none).map (Held.item r)) =
      Loads.loadAt t
          ((standing site events skipId (some key)).map
            (Held.item r)) +
        (if key ∈ groupKeys site none events then
          optLoad t r (standingHold site events key)
        else 0) := by
  have hSplit :=
    Loads.sum_filter_add
      (fun key' => some key' ≠ some key)
      (fun key' => optLoad t r (standingHold site events key'))
      (groupKeys site none events)
  have hOne :
      (((groupKeys site none events).filter (fun key' =>
        !decide (some key' ≠ some key))).map (fun key' =>
          optLoad t r (standingHold site events key'))).sum =
        if key ∈ groupKeys site none events then
          optLoad t r (standingHold site events key)
        else 0 := by
    have hFilter :
        (groupKeys site none events).filter (fun key' =>
            !decide (some key' ≠ some key)) =
          (groupKeys site none events).filter (fun key' =>
            key' == key) := by
      apply List.filter_congr
      intro key' _
      rw [Bool.eq_iff_iff]
      simp
    rw [hFilter, List.filter_beq]
    have hNodup : (groupKeys site none events).Nodup :=
      Dict.nodup_fromkeys _
    by_cases hMem : key ∈ groupKeys site none events
    · rw [if_pos hMem, List.count_eq_one_of_mem hNodup hMem]
      simp
    · rw [if_neg hMem, List.count_eq_zero.mpr hMem]
      rfl
  unfold standing
  simp only [List.map_append, Loads.loadAt_append,
    loadAt_filterMap]
  rw [hOne] at hSplit
  have hAll :
      (groupKeys site none events).filter (fun key' =>
        some key' ≠ none) = groupKeys site none events := by
    apply List.filter_eq_self.mpr
    intro key' _
    simp
  rw [hAll]
  omega

/- A session takes up the hold it joins, and no more. -/
theorem loadAt_set_session
    {key : HoldKey}
    (hOld : ∀ e, events.get? id = some e → Uncounted site e)
    (hNew : rowKey site none e' = some key)
    (t : Instant)
    (r : Resource) :
    Loads.loadAt t
        ((standing site (events.set id e') none none).map
          (Held.item r)) =
      Loads.loadAt t
          ((standing site events (some id) (some key)).map
            (Held.item r)) +
        optLoad t r
          (standingHold site (events.set id e') key) := by
  have hMem : key ∈ groupKeys site none (events.set id e') :=
    mem_groupKeys.mpr
      ⟨id, e', Dict.get?_set_self events id e', hNew⟩
  rw [loadAt_split none key, if_pos hMem]
  have hKeys :
      (groupKeys site none (events.set id e')).filter
          (fun key' => some key' ≠ some key) =
        (groupKeys site none events).filter
          (fun key' => some key' ≠ some key) := by
    unfold groupKeys
    rw [Dict.filter_fromkeys, Dict.filter_fromkeys,
      List.filter_filterMap, List.filter_filterMap,
      Dict.filterMap_set_none, Dict.filterMap_skip]
    · intro e hGet
      simp [(hOld e hGet).row]
    · simp [hNew]
  have hHolds :
      ((groupKeys site none events).filter
          (fun key' => some key' ≠ some key)).filterMap
            (standingHold site (events.set id e')) =
        ((groupKeys site none events).filter
          (fun key' => some key' ≠ some key)).filterMap
            (standingHold site events) := by
    apply List.filterMap_congr
    intro key' hKey'
    have hNe := of_decide_eq_true (List.mem_filter.mp hKey').2
    apply standingHold_set
    · intro e hGet
      rw [(hOld e hGet).row]
      exact Option.some_ne_none key' ∘ Eq.symm
    · rw [hNew]
      exact hNe ∘ Eq.symm
  unfold standing
  rw [hKeys, hHolds, standingPlain_skip,
    Dict.filterMap_set_none]
  unfold standingPlain
  simp [hNew]

end

--------
-- What Is Preserved
--------

/- Nothing is overcommitted, at any time. -/
structure Safe
    (site : Site)
    (supply : Resources)
    (events : Dict Nat ScheduledEvent) : Prop
    extends Booked site events where
  fits : ∀ t r,
    Loads.loadAt t
        ((standing site events none none).map (Held.item r)) ≤
      supply.get r

/- What is so of each booking, where one is written. -/
structure Wellsized
    (site : Site)
    (e : ScheduledEvent) : Prop where
  approval : e.approval.isSome = e.session.isSome
  pending : e.state = .pendingApproval →
    e.approval.isSome = true
  sized : ∀ key size, holdKey site e = some key →
    holdSize site key = some size →
      e.size = size

section

variable {site : Site}
variable {supply : Resources}
variable {events : Dict Nat ScheduledEvent}
variable {id : Nat}
variable {e e' : ScheduledEvent}

theorem get?_set_cases
    {i : Nat}
    {evt : ScheduledEvent}
    (hGet : (events.set id e').get? i = some evt) :
    evt = e' ∨ events.get? i = some evt := by
  rw [Dict.get?_set] at hGet
  by_cases hSame : i = id
  · rw [if_pos hSame] at hGet
    cases hGet
    exact .inl rfl
  · rw [if_neg hSame] at hGet
    exact .inr hGet

/- The bookings are as they should be, once one is written. -/
theorem booked_set
    (hBooked : Booked site events)
    (hNew : Wellsized site e')
    (hHolding : ∀ key, rowKey site none e' = some key →
      e'.state.holding = true)
    (hEarly : ∀ key cls, rowKey site none e' = some key →
      site.classes.get? key.classId = some cls →
        e'.startTime - site.cfg.lead ≤
          lastDayEnd cls.endDate + site.cfg.grace) :
    Booked site (events.set id e') := by
  constructor
  · intro i evt hGet
    rcases get?_set_cases hGet with rfl | hGet
    · exact hNew.approval
    · exact hBooked.approval i evt hGet
  · intro i evt hGet
    rcases get?_set_cases hGet with rfl | hGet
    · exact hNew.pending
    · exact hBooked.pending i evt hGet
  · intro i evt key hGet
    rcases get?_set_cases hGet with rfl | hGet
    · exact hHolding key
    · exact hBooked.holding i evt key hGet
  · intro i evt key cls hGet
    rcases get?_set_cases hGet with rfl | hGet
    · exact hEarly key cls
    · exact hBooked.early i evt key cls hGet
  · intro i evt key size hGet
    rcases get?_set_cases hGet with rfl | hGet
    · exact hNew.sized key size
    · exact hBooked.sized i evt key size hGet

theorem Booked.wellsized
    (hBooked : Booked site events)
    (hGet : events.get? id = some e) :
    Wellsized site e where
  approval := hBooked.approval id e hGet
  pending := hBooked.pending id e hGet
  sized := fun key size => hBooked.sized id e key size hGet

theorem safe_alike
    (hSafe : Safe site supply events)
    (hGet : events.get? id = some e)
    (hAlike : Alike e e')
    (hApproval : e'.approval.isSome = e.approval.isSome)
    (hPending : e'.state = .pendingApproval →
      e.state = .pendingApproval) :
    Safe site supply (events.set id e') := by
  constructor
  · apply booked_set hSafe.toBooked
    · constructor
      · rw [hApproval, hAlike.session]
        exact hSafe.approval id e hGet
      · intro hState
        rw [hApproval]
        exact hSafe.pending id e hGet (hPending hState)
      · intro key size hKey hSize
        rw [hAlike.size]
        rw [hAlike.holdKey_eq] at hKey
        exact hSafe.sized id e key size hGet hKey hSize
    · intro key hRow
      rw [hAlike.rowKey_eq] at hRow
      rw [hAlike.holding]
      exact hSafe.holding id e key hGet hRow
    · intro key cls hRow hClass
      rw [hAlike.rowKey_eq] at hRow
      rw [hAlike.startTime]
      exact hSafe.early id e key cls hGet hRow hClass
  · intro t r
    rw [standing_set_alike hGet hAlike]
    exact hSafe.fits t r

/- A booking that holds nothing is written. -/
theorem safe_uncounted
    (hSafe : Safe site supply events)
    (hOld : ∀ e, events.get? id = some e →
      rowKey site none e = none)
    (hNew : Uncounted site e')
    (hSized : Wellsized site e') :
    Safe site supply (events.set id e') := by
  constructor
  · apply booked_set hSafe.toBooked hSized
    · intro key hRow
      rw [hNew.row] at hRow
      cases hRow
    · intro key cls hRow
      rw [hNew.row] at hRow
      cases hRow
  · intro t r
    rw [standing_set_uncounted hOld hNew]
    exact (loadAt_skip_le (some id) t r).trans
      (hSafe.fits t r)

/- A booking that was found to fit is written. -/
theorem safe_plain
    (hSafe : Safe site supply events)
    (hOld : ∀ e, events.get? id = some e →
      rowKey site none e = none)
    (hRow : rowKey site none e' = none)
    (hHolding : e'.state.holding = true)
    (hSized : Wellsized site e')
    (hRoom :
      Room site supply events (some id) none e'.size
        (e'.startTime - site.cfg.lead)
        (e'.endTime + site.cfg.grace)) :
    Safe site supply (events.set id e') := by
  constructor
  · apply booked_set hSafe.toBooked hSized
    · intro key hKey
      rw [hRow] at hKey
      cases hKey
    · intro key cls hKey
      rw [hRow] at hKey
      cases hKey
  · intro t r
    rw [loadAt_set_plain hOld hRow hHolding]
    unfold optLoad
    rw [Option.elim_some, Held.item_loadAt]
    have hRest :=
      (@loadAt_skip_le site events (some id) t r).trans (hSafe.fits t r)
    by_cases hThere :
        e'.startTime - site.cfg.lead ≤ t ∧
          t < e'.endTime + site.cfg.grace
    · rw [if_pos hThere]
      rcases hRoom t r hThere.1 hThere.2 with hZero | hFits
      · simp only
        rw [hZero, Nat.zero_add]
        exact hRest
      · exact hFits
    · rw [if_neg hThere, Nat.zero_add]
      exact hRest

theorem standingHold_isSome
    (events : Dict Nat ScheduledEvent)
    {key : HoldKey}
    {size : Resources}
    {cls : Class}
    (hSize : holdSize site key = some size)
    (hClass : site.classes.get? key.classId = some cls) :
    ∃ h, standingHold site events key = some h := by
  unfold standingHold hold?
  rw [hSize, hClass]
  exact ⟨_, rfl⟩

/-
  Where a hold that a session joined stands, and the session
  was not checked: the hold stood there before.
-/
theorem stood_before
    (hBooked : Booked site events)
    {key : HoldKey}
    {cls : Class}
    (hClass : site.classes.get? key.classId = some cls)
    (hRow : rowKey site none e' = some key)
    (hEarly : e'.startTime - site.cfg.lead ≤
      lastDayEnd cls.endDate + site.cfg.grace)
    {h h' : Held}
    (hHold : standingHold site events key = some h)
    (hHold' :
      standingHold site (events.set id e') key = some h')
    (hHolding : ∀ i evt,
      (events.set id e').get? i = some evt →
        rowKey site none evt = some key →
          evt.state.holding = true)
    {t : Instant}
    (hThere : h'.start ≤ t ∧ t < h'.stop)
    (hOut : ¬(e'.startTime - site.cfg.lead ≤ t ∧
      t < max e'.endTime (lastDayEnd cls.endDate) +
        site.cfg.grace)) :
    key ∈ groupKeys site none events ∧
      h.start ≤ t ∧ t < h.stop := by
  have hMem' : key ∈ groupKeys site none (events.set id e') :=
    mem_groupKeys.mpr
      ⟨id, e', Dict.get?_set_self events id e', hRow⟩
  have hMember
      {i : Nat}
      {evt : ScheduledEvent}
      (hGet : (events.set id e').get? i = some evt) :
      evt = e' ∨ events.get? i = some evt :=
    get?_set_cases hGet
  have hStart :
      e'.startTime - site.cfg.lead ≤ t ∨
        ∃ i evt, events.get? i = some evt ∧
          rowKey site none evt = some key ∧
          evt.startTime - site.cfg.lead ≤ t := by
    rcases (standingHold_start hHolding hMem' hHold' t).mp
        hThere.1 with ⟨i, evt, hGet, hKey, hLe⟩
    rcases hMember hGet with rfl | hGet
    · exact .inl hLe
    · exact .inr ⟨i, evt, hGet, hKey, hLe⟩
  have hStop :
      t < lastDayEnd cls.endDate + site.cfg.grace ∨
        t < e'.endTime + site.cfg.grace ∨
        ∃ i evt, events.get? i = some evt ∧
          rowKey site none evt = some key ∧
          t < evt.endTime + site.cfg.grace := by
    rcases (standingHold_stop hClass hHold' t).mp hThere.2 with
      hLast | ⟨i, evt, hGet, hKey, hLt⟩
    · exact .inl hLast
    · rcases hMember hGet with rfl | hGet
      · exact .inr (.inl hLt)
      · exact .inr (.inr ⟨i, evt, hGet, hKey, hLt⟩)
  have hBefore :
      (∃ i evt, events.get? i = some evt ∧
        rowKey site none evt = some key ∧
        evt.startTime - site.cfg.lead ≤ t) ∧
      (t < lastDayEnd cls.endDate + site.cfg.grace ∨
        ∃ i evt, events.get? i = some evt ∧
          rowKey site none evt = some key ∧
          t < evt.endTime + site.cfg.grace) := by
    by_cases hSoon : t < e'.startTime - site.cfg.lead
    · rcases hStart with hNow | hStart
      · exact absurd hNow (not_le.mpr hSoon)
      · exact ⟨hStart, .inl (lt_of_lt_of_le hSoon hEarly)⟩
    · have hLate :
          max e'.endTime (lastDayEnd cls.endDate) +
            site.cfg.grace ≤ t := by
        apply not_lt.mp
        intro hLt
        exact hOut ⟨not_lt.mp hSoon, hLt⟩
      have hEnd : e'.endTime + site.cfg.grace ≤ t :=
        (add_le_add_left (le_max_left _ _) _).trans hLate
      have hDay :
          lastDayEnd cls.endDate + site.cfg.grace ≤ t :=
        (add_le_add_left (le_max_right _ _) _).trans hLate
      rcases hStop with hLt | hLt | ⟨i, evt, hGet, hKey, hLt⟩
      · exact absurd hLt (not_lt.mpr hDay)
      · exact absurd hLt (not_lt.mpr hEnd)
      · refine ⟨⟨i, evt, hGet, hKey, ?_⟩,
          .inr ⟨i, evt, hGet, hKey, hLt⟩⟩
        exact (hBooked.early i evt key cls hGet hKey
          hClass).trans hDay
  rcases hBefore with ⟨⟨i, evt, hGet, hKey, hLe⟩, hEnds⟩
  have hMem : key ∈ groupKeys site none events :=
    mem_groupKeys.mpr ⟨i, evt, hGet, hKey⟩
  refine ⟨hMem, ?_, ?_⟩
  · exact (standingHold_start
      (fun i evt hGet hRow =>
        hBooked.holding i evt key hGet hRow)
      hMem hHold t).mpr ⟨i, evt, hGet, hKey, hLe⟩
  · exact (standingHold_stop hClass hHold t).mpr hEnds

/- A session that was checked to its class's end is written. -/
theorem safe_session
    (hSafe : Safe site supply events)
    (hOld : ∀ e, events.get? id = some e → Uncounted site e)
    {key : HoldKey}
    {cls : Class}
    (hClass : site.classes.get? key.classId = some cls)
    (hRow : rowKey site none e' = some key)
    (hHolding : e'.state.holding = true)
    (hSized : Wellsized site e')
    (hEarly : e'.startTime - site.cfg.lead ≤
      lastDayEnd cls.endDate + site.cfg.grace)
    (hRoom :
      Room site supply events (some id) (some key) e'.size
        (e'.startTime - site.cfg.lead)
        (max e'.endTime (lastDayEnd cls.endDate) +
          site.cfg.grace)) :
    Safe site supply (events.set id e') := by
  have hBooked : Booked site (events.set id e') := by
    apply booked_set hSafe.toBooked hSized
    · intro key' _
      exact hHolding
    · intro key' cls' hKey hClass'
      rw [hRow] at hKey
      cases hKey
      rw [hClass] at hClass'
      cases hClass'
      exact hEarly
  refine ⟨hBooked, ?_⟩
  intro t r
  rw [loadAt_set_session hOld hRow]
  have hRest := hSafe.fits t r
  have hSkip := @loadAt_skip_le site events (some id) t r
  have hSplit := @loadAt_split site events (some id) key t r
  cases hHold' :
      standingHold site (events.set id e') key with
  | none =>
      rw [show optLoad t r none = 0 from rfl, Nat.add_zero]
      omega
  | some h' =>
      have hSize : h'.size = e'.size :=
        (hSized.sized key h'.size (rowKey_some hRow).1
          (standingHold_size hHold').1).symm
      unfold optLoad at hSplit ⊢
      rw [Option.elim_some, Held.item_loadAt]
      by_cases hThere : h'.start ≤ t ∧ t < h'.stop
      · rw [if_pos hThere, hSize]
        by_cases hIn :
            e'.startTime - site.cfg.lead ≤ t ∧
              t < max e'.endTime (lastDayEnd cls.endDate) +
                site.cfg.grace
        · rcases hRoom t r hIn.1 hIn.2 with hZero | hFits
          · rw [hZero, Nat.add_zero]
            omega
          · omega
        · rcases standingHold_isSome events
            (standingHold_size hHold').1 hClass with ⟨h, hHold⟩
          rcases stood_before hSafe.toBooked hClass hRow
              hEarly hHold hHold'
              (fun i evt hGet hKey =>
                hBooked.holding i evt key hGet hKey)
              hThere hIn with ⟨hMem, hBefore⟩
          have hSame : h.size = e'.size := by
            have hBoth :=
              (standingHold_size hHold).1.symm.trans
                (standingHold_size hHold').1
            rw [Option.some.inj hBoth, hSize]
          rw [if_pos hMem, hHold, Option.elim_some,
            Held.item_loadAt, if_pos hBefore, hSame]
            at hSplit
          omega
      · rw [if_neg hThere, Nat.add_zero]
        omega

end

end Scheduler

end TrueNorth
