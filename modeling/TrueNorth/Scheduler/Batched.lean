import Mathlib.Algebra.Order.Ring.Int
import Mathlib.Data.Fintype.EquivFin
import Mathlib.Tactic.Linarith
import Mathlib.Tactic.Ring
import TrueNorth.Scheduler.Commitments

/-
  The batched reads of the provider (scheduler/capacity.py
  `committed_many`, `committed_series`): what one read of a
  long stretch counts in each window of it, beside what a
  read of that window alone does.

  The long read finds class holds that the short one does
  not: of a class that is over by then, or that is up only
  before the window or after it.

  Key definitions include:
    * `slots`, `committedSeries`
    * `counted`
    * `finds`, `Missed`
    * `SameHolds`

  Main theorems:
    * `counted_of_sameHolds`
    * `sameHolds_of_counted`
    * `batched_iff`
-/

--------
-- Reads
--------

namespace TrueNorth

namespace Scheduler

/- The turns of `while t < end`, a step apart. -/
def slots
    (start stop step : Int) : List (Instant × Instant) :=
  (List.range ((stop - start + step - 1) / step).toNat).map
    (fun (i : Nat) =>
      (start + i * step, start + i * step + step))

/- `committed_series`, for a step that goes on. -/
def committedSeries
    (site : Site)
    (running : Running)
    (events : Dict Nat ScheduledEvent)
    (start stop : Instant)
    (step : Int) : List Committed :=
  let (held, _) := held site running events start stop none
  (slots start stop step).map (fun w =>
    sumHeld running held w.1 w.2 [])

/- What a read counts in a window. -/
def counted
    (site : Site)
    (running : Running)
    (events : Dict Nat ScheduledEvent)
    (exclude : Option Nat)
    (read w : Instant × Instant) : Committed :=
  let (held, skip) :=
    held site running events read.1 read.2 exclude
  sumHeld running held w.1 w.2 skip

/- From the first start of the windows to their last end. -/
def hull :
    List (Instant × Instant) → Instant × Instant
| [] => (0, 0)
| (a, z) :: rest =>
    ((rest.map Prod.fst).foldr min a,
      (rest.map Prod.snd).foldr max z)

section

variable {site : Site}
variable {running : Running}
variable {events : Dict Nat ScheduledEvent}
variable {exclude : Option Nat}

theorem counted_eq
    (read w : Instant × Instant) :
    counted site running events exclude read w =
      sumHeld running
        (held site running events read.1 read.2 exclude).1
        w.1 w.2
        (held site running events read.1 read.2 exclude).2 :=
  rfl

theorem committed_eq
    (w : Instant × Instant) :
    committed site running events w.1 w.2 exclude =
      counted site running events exclude w w :=
  rfl

theorem committedMany_eq
    (windows : List (Instant × Instant)) :
    committedMany site running events windows exclude =
      windows.map
        (counted site running events exclude (hull windows)) := by
  cases windows with
  | nil => rfl
  | cons w rest => rfl

/- Nothing is left out when no booking is checked again. -/
theorem skip_none
    (read : Instant × Instant) :
    (held site running events read.1 read.2 none).2 = [] := by
  unfold held
  simp

theorem committedSeries_eq
    (start stop : Instant)
    (step : Int) :
    committedSeries site running events start stop step =
      (slots start stop step).map
        (counted site running events none (start, stop)) := by
  have hSkip :
      (held site running events start stop none).2 = [] :=
    skip_none (start, stop)
  unfold committedSeries counted
  simp only [hSkip]

theorem hull_le
    {windows : List (Instant × Instant)}
    {w : Instant × Instant}
    (hMem : w ∈ windows) :
    (hull windows).1 ≤ w.1 ∧ w.2 ≤ (hull windows).2 := by
  cases windows with
  | nil => cases hMem
  | cons first rest =>
      rcases List.mem_cons.mp hMem with rfl | hRest
      · exact ⟨foldr_min_le (.inl rfl), le_foldr_max (.inl rfl)⟩
      · exact
          ⟨foldr_min_le
              (.inr (List.mem_map.mpr ⟨w, hRest, rfl⟩)),
            le_foldr_max
              (.inr (List.mem_map.mpr ⟨w, hRest, rfl⟩))⟩

end

--------
-- What a Read Finds
--------

/- The class hold of a key, whatever of its ranges is up. -/
def spanOf
    (site : Site)
    (events : Dict Nat ScheduledEvent)
    (key : HoldKey) : Option Hold :=
  hold? site (fun _ => []) (members site none events key) key

/-
  A read finds the holds that meet it, lead and grace
  included, of classes that end on its first day or later.
-/
def finds
    (site : Site)
    (read : Instant × Instant)
    (h : Hold) : Bool :=
  recent site (firstDay site read.1) h.key &&
    h.start < read.2 + site.cfg.lead &&
    h.stop > read.1 - site.cfg.grace

/- The hold of the booking that is checked again. -/
def ownKey
    (site : Site)
    (events : Dict Nat ScheduledEvent)
    (exclude : Option Nat) : Option HoldKey :=
  (exclude.bind events.get?).bind (holdKey site)

/- A hold, with the ranges of it that are up. -/
def Hold.withLive
    (live : HoldKey → List Nat)
    (h : Hold) : Hold :=
  { h with ranges := live h.key }

section

variable {site : Site}
variable {events : Dict Nat ScheduledEvent}

theorem spanOf_key
    {key : HoldKey}
    {h : Hold}
    (hSpan : spanOf site events key = some h) :
    h.key = key :=
  (hold?_key hSpan).1

theorem holds_eq
    (live : HoldKey → List Nat)
    (read : Instant × Instant) :
    holds site live events (read.1 - site.cfg.grace)
        (read.2 + site.cfg.lead) =
      (groupKeys site none events).filterMap (fun key =>
        ((spanOf site events key).filter (finds site read)).map
          (Hold.withLive live)) := by
  have hUnfold :
      holds site live events (read.1 - site.cfg.grace)
          (read.2 + site.cfg.lead) =
        ((groupKeys site none events).filter
          (recent site (firstDay site read.1))).filterMap
            (fun key =>
              (hold? site live
                (members site (some (firstDay site read.1))
                  events key) key).filter
                (fun h =>
                  h.start < read.2 + site.cfg.lead &&
                    h.stop > read.1 - site.cfg.grace)) := by
    rw [← groupKeys_since]
    rfl
  rw [hUnfold, List.filterMap_filter]
  apply List.filterMap_congr
  intro key _
  cases hRecent : recent site (firstDay site read.1) key with
  | false =>
      simp only [Bool.false_eq_true, if_false]
      cases hSpan : spanOf site events key with
      | none => rfl
      | some h =>
          have hNot : finds site read h = false := by
            unfold finds
            rw [spanOf_key hSpan, hRecent]
            rfl
          rw [Option.filter_some, hNot]
          rfl
  | true =>
      rw [if_pos rfl, members_since hRecent, hold?_live]
      unfold spanOf
      cases hSpan :
          hold? site (fun _ => []) (members site none events key)
            key with
      | none => rfl
      | some h =>
          have hKey := (hold?_key hSpan).1
          have hSame :
              finds site read h =
                (decide (h.start < read.2 + site.cfg.lead) &&
                  decide (h.stop > read.1 - site.cfg.grace)) := by
            unfold finds
            rw [hKey, hRecent, Bool.true_and]
          rw [Option.filter_some, hSame, Option.map_some,
            Option.filter_some]
          simp only
          split
          · rw [Option.map_some, Hold.withLive, hKey]
          · rfl

theorem mem_spanOf_events
    {key : HoldKey}
    {h : Hold}
    (hSpan : spanOf site events key = some h)
    (id : Nat) :
    id ∈ h.events ↔
      ∃ evt, events.get? id = some evt ∧
        rowKey site none evt = some key := by
  rw [(hold?_key hSpan).2.1, List.mem_map]
  constructor
  · rintro ⟨m, hm, rfl⟩
    rcases mem_members.mp hm with ⟨evt, hGet, hRow, _⟩
    exact ⟨evt, hGet, hRow⟩
  · rintro ⟨evt, hGet, hRow⟩
    exact ⟨_, member_of_get? hGet hRow, rfl⟩

/- The read counts a booking through its class's hold. -/
def absorbs
    (site : Site)
    (events : Dict Nat ScheduledEvent)
    (read : Instant × Instant)
    (evt : ScheduledEvent) : Bool :=
  ((rowKey site none evt).bind (spanOf site events)).any
    (finds site read)

theorem mem_absorbed
    {live : HoldKey → List Nat}
    {read : Instant × Instant}
    {id : Nat}
    {evt : ScheduledEvent}
    (hGet : events.get? id = some evt) :
    id ∈ (holds site live events (read.1 - site.cfg.grace)
        (read.2 + site.cfg.lead)).flatMap Hold.events ↔
      absorbs site events read evt = true := by
  rw [holds_eq, List.mem_flatMap]
  unfold absorbs
  constructor
  · rintro ⟨h, hMem, hId⟩
    rcases List.mem_filterMap.mp hMem with ⟨key, _, hHold⟩
    rcases Option.map_eq_some_iff.mp hHold with
      ⟨h', hFound, rfl⟩
    rcases Option.filter_eq_some_iff.mp hFound with
      ⟨hSpan, hFinds⟩
    rcases (mem_spanOf_events hSpan id).mp hId with
      ⟨evt', hGet', hRow⟩
    rw [hGet] at hGet'
    cases hGet'
    rw [hRow, Option.bind_some, hSpan]
    exact hFinds
  · intro hAny
    rcases (Option.any_eq_true _ _).mp hAny with
      ⟨h, hBind, hFinds⟩
    rcases Option.bind_eq_some_iff.mp hBind with
      ⟨key, hRow, hSpan⟩
    refine ⟨h.withLive live, ?_,
      (mem_spanOf_events hSpan id).mpr ⟨evt, hGet, hRow⟩⟩
    refine List.mem_filterMap.mpr
      ⟨key, mem_groupKeys.mpr ⟨id, evt, hGet, hRow⟩, ?_⟩
    rw [hSpan, Option.filter_some, if_pos hFinds]
    rfl

end

--------
-- What a Read Counts
--------

/- What is there at some time in a window. -/
def Held.meets
    (w : Instant × Instant)
    (h : Held) : Bool :=
  h.start < w.2 && h.stop > w.1

@[simp] theorem Hold.withLive_key
    (live : HoldKey → List Nat)
    (h : Hold) :
    (h.withLive live).key = h.key :=
  rfl

theorem Hold.meets_withLive
    (live : HoldKey → List Nat)
    (w : Instant × Instant)
    (h : Hold) :
    (h.withLive live).held.meets w = h.held.meets w :=
  rfl

/- The hold of a key, if a read counts it in a window. -/
def holdIn
    (site : Site)
    (running : Running)
    (events : Dict Nat ScheduledEvent)
    (exclude : Option Nat)
    (read w : Instant × Instant)
    (key : HoldKey) : Option Held :=
  ((spanOf site events key).filter (fun h =>
    finds site read h && some key ≠ ownKey site events exclude &&
      h.held.meets w)).map (fun h =>
        (h.withLive running.live).held)

/- A booking, if a read counts it by itself in a window. -/
def bookingIn
    (site : Site)
    (running : Running)
    (events : Dict Nat ScheduledEvent)
    (exclude : Option Nat)
    (read w : Instant × Instant)
    (entry : Nat × ScheduledEvent) : Option Held :=
  if entry.2.state.holding && some entry.1 ≠ exclude &&
      !absorbs site events read entry.2 &&
      (bookingHeld site.cfg running entry.1 entry.2).meets w then
    some (bookingHeld site.cfg running entry.1 entry.2)
  else
    none

/- The hold of a key, if a read leaves out its ranges. -/
def ownIn
    (site : Site)
    (running : Running)
    (events : Dict Nat ScheduledEvent)
    (exclude : Option Nat)
    (read : Instant × Instant)
    (key : HoldKey) : Option Hold :=
  ((spanOf site events key).filter (fun h =>
    finds site read h && some key = ownKey site events exclude)).map
      (Hold.withLive running.live)

section

variable {site : Site}
variable {running : Running}
variable {events : Dict Nat ScheduledEvent}
variable {exclude : Option Nat}
variable {read w : Instant × Instant}

theorem holds_filter_key
    (p : HoldKey → Bool) :
    (holds site running.live events (read.1 - site.cfg.grace)
        (read.2 + site.cfg.lead)).filter (fun h => p h.key) =
      (groupKeys site none events).filterMap (fun key =>
        ((spanOf site events key).filter (fun h =>
          finds site read h && p key)).map
            (Hold.withLive running.live)) := by
  rw [holds_eq, List.filter_filterMap]
  apply List.filterMap_congr
  intro key _
  cases hSpan : spanOf site events key with
  | none => rfl
  | some h =>
      have hKey := spanOf_key hSpan
      rw [Option.filter_some, Option.filter_some]
      cases finds site read h with
      | false => rfl
      | true =>
          rw [if_pos rfl, Option.map_some, Option.filter_some,
            Bool.true_and, Hold.withLive_key, hKey]
          cases p key with
          | false => rfl
          | true => rfl

/- The window's part of what a read finds held. -/
theorem held_meets
    (hFrom : read.1 ≤ w.1)
    (hTo : w.2 ≤ read.2) :
    (held site running events read.1 read.2 exclude).1.filter
        (Held.meets w) =
      (groupKeys site none events).filterMap
          (holdIn site running events exclude read w) ++
        events.entries.filterMap
          (bookingIn site running events exclude read w) := by
  unfold held
  simp only
  rw [List.filter_append]
  congr 1
  · rw [holds_filter_key (fun key =>
      some key ≠ (exclude.bind events.get?).bind (holdKey site)),
      List.map_filterMap, List.filter_filterMap]
    apply List.filterMap_congr
    intro key _
    unfold holdIn
    cases spanOf site events key with
    | none => rfl
    | some h =>
        rw [Option.filter_some, Option.filter_some]
        unfold ownKey
        cases hFound :
            (finds site read h &&
              decide (some key ≠
                (exclude.bind events.get?).bind
                  (holdKey site))) with
        | false => rfl
        | true =>
            rw [if_pos rfl, Option.map_some, Option.map_some,
              Option.filter_some, Bool.true_and,
              Hold.meets_withLive]
            cases h.held.meets w with
            | false => rfl
            | true => rfl
  · rw [List.filter_filterMap]
    apply List.filterMap_congr
    rintro ⟨id, evt⟩ hMem
    have hGet := Dict.get?_eq_some_iff.mpr hMem
    have hAbsorbed :
        ((holds site running.live events
            (read.1 - site.cfg.grace)
            (read.2 + site.cfg.lead)).flatMap
              Hold.events).contains id =
          absorbs site events read evt := by
      rw [Bool.eq_iff_iff, List.contains_iff_mem]
      exact mem_absorbed hGet
    unfold plainHeld bookingIn
    simp only [hAbsorbed]
    by_cases hMeets :
        (bookingHeld site.cfg running id evt).meets w = true
    · have hSpan :
          evt.startTime < read.2 + site.cfg.lead ∧
            evt.endTime > read.1 - site.cfg.grace := by
        unfold Held.meets bookingHeld heldWindow at hMeets
        rw [Bool.and_eq_true, decide_eq_true_eq,
          decide_eq_true_eq] at hMeets
        constructor
        · exact (sub_lt_iff_lt_add.mp hMeets.1).trans_le
            (add_le_add hTo le_rfl)
        · exact (sub_le_sub hFrom le_rfl).trans_lt
            (sub_lt_iff_lt_add.mpr hMeets.2)
      simp only [hSpan.1, hSpan.2, decide_true, Bool.and_true,
        hMeets]
      split
      · rw [Option.filter_some, if_pos hMeets]
      · rfl
    · simp only [hMeets, Bool.and_false, Bool.false_eq_true,
        if_false]
      split
      · rw [Option.filter_some, if_neg hMeets]
      · rfl

/- The ranges that a read leaves out. -/
theorem held_skip :
    (held site running events read.1 read.2 exclude).2 =
      ((exclude.bind events.get?).bind
          ScheduledEvent.rangeId).toList ++
        (if (exclude.bind events.get?).isSome then
          exclude.toList.flatMap (fun id =>
            (running.drawing id).1)
        else []) ++
        ((groupKeys site none events).filterMap
          (ownIn site running events exclude read)).flatMap
            Hold.ranges := by
  unfold held
  simp only
  rw [holds_filter_key (fun key =>
    some key = (exclude.bind events.get?).bind (holdKey site))]
  rfl

end

--------
-- Two Reads That Count Alike
--------

/- A class hold that one read finds and another does not. -/
def Missed
    (site : Site)
    (events : Dict Nat ScheduledEvent)
    (read read' : Instant × Instant)
    (key : HoldKey)
    (h : Hold) : Prop :=
  key ∈ groupKeys site none events ∧
    spanOf site events key = some h ∧
    finds site read h = true ∧
    finds site read' h = false

/-
  What a longer read finds and a shorter one misses does not
  matter in the window: it is not the hold of the booking that
  is checked again, it is not there in the window, and none
  of its sessions is.
-/
structure SameHolds
    (site : Site)
    (events : Dict Nat ScheduledEvent)
    (exclude : Option Nat)
    (read read' w : Instant × Instant) : Prop where
  own : ∀ key h, Missed site events read read' key h →
    some key ≠ ownKey site events exclude
  hold : ∀ key h, Missed site events read read' key h →
    ¬(h.start < w.2 ∧ w.1 < h.stop)
  session : ∀ key h, Missed site events read read' key h →
    ∀ id evt, events.get? id = some evt →
      rowKey site none evt = some key →
      evt.state.holding = true → some id ≠ exclude →
        ¬(evt.startTime - site.cfg.lead < w.2 ∧
          w.1 < evt.endTime + site.cfg.grace)

section

variable {site : Site}
variable {running : Running}
variable {events : Dict Nat ScheduledEvent}
variable {exclude : Option Nat}
variable {read read' w : Instant × Instant}

/- What a window counts is what is there in it. -/
theorem sumHeld_congr
    {hs hs' : List Held}
    {skip skip' : List Nat}
    (hHeld : hs.filter (Held.meets w) = hs'.filter (Held.meets w))
    (hSkip : skip = skip') :
    sumHeld running hs w.1 w.2 skip =
      sumHeld running hs' w.1 w.2 skip' := by
  have hNow :
      hs.filter (fun h => h.start < w.2 && h.stop > w.1) =
        hs'.filter (fun h => h.start < w.2 && h.stop > w.1) :=
    hHeld
  unfold sumHeld
  simp only [hNow, hSkip]

theorem meets_iff
    {h : Held} :
    h.meets w = true ↔ h.start < w.2 ∧ w.1 < h.stop := by
  unfold Held.meets
  rw [Bool.and_eq_true, decide_eq_true_eq, decide_eq_true_eq]

/- A longer read finds what a shorter one does. -/
theorem finds_mono
    (hFrom : read.1 ≤ read'.1)
    (hTo : read'.2 ≤ read.2)
    {h : Hold}
    (hFinds : finds site read' h = true) :
    finds site read h = true := by
  unfold finds at hFinds ⊢
  simp only [Bool.and_eq_true, decide_eq_true_eq] at hFinds ⊢
  refine ⟨⟨?_, ?_⟩, ?_⟩
  · have hDays :
        firstDay site read.1 ≤ firstDay site read'.1 := by
      have hDay (a b grace : Int) (hLe : a ≤ b) :
          (a - grace - grace - day) / day ≤
            (b - grace - grace - day) / day := by
        unfold day
        omega
      exact hDay _ _ _ hFrom
    have hRecent := hFinds.1.1
    unfold recent at hRecent ⊢
    split at hRecent
    · cases hRecent
    · exact decide_eq_true
        (hDays.trans (of_decide_eq_true hRecent))
  · exact hFinds.1.2.trans_le (add_le_add hTo le_rfl)
  · exact (sub_le_sub hFrom le_rfl).trans_lt hFinds.2

/- The two reads find a hold alike, or one of them misses it. -/
theorem finds_eq_or_missed
    (hFrom : read.1 ≤ read'.1)
    (hTo : read'.2 ≤ read.2)
    {key : HoldKey}
    {h : Hold}
    (hMem : key ∈ groupKeys site none events)
    (hSpan : spanOf site events key = some h) :
    finds site read h = finds site read' h ∨
      Missed site events read read' key h := by
  cases hShort : finds site read' h with
  | true => exact .inl (finds_mono hFrom hTo hShort)
  | false =>
      cases hLong : finds site read h with
      | false => exact .inl rfl
      | true => exact .inr ⟨hMem, hSpan, hLong, hShort⟩

/- The bookings counted by themselves are the same ones. -/
theorem bookingIn_eq
    (hFrom : read.1 ≤ read'.1)
    (hTo : read'.2 ≤ read.2)
    (hSession : ∀ key h, Missed site events read read' key h →
      ∀ id evt, events.get? id = some evt →
        rowKey site none evt = some key →
        evt.state.holding = true → some id ≠ exclude →
          ¬(evt.startTime - site.cfg.lead < w.2 ∧
            w.1 < evt.endTime + site.cfg.grace))
    {entry : Nat × ScheduledEvent}
    (hMem : entry ∈ events.entries) :
    bookingIn site running events exclude read w entry =
      bookingIn site running events exclude read' w entry := by
  rcases entry with ⟨id, evt⟩
  have hGet := Dict.get?_eq_some_iff.mpr hMem
  have hAlike :
      absorbs site events read evt =
          absorbs site events read' evt ∨
        (evt.state.holding && decide (some id ≠ exclude) &&
          (bookingHeld site.cfg running id evt).meets w) =
            false := by
    unfold absorbs
    cases hRow : rowKey site none evt with
    | none => exact .inl rfl
    | some key =>
        rw [Option.bind_some]
        cases hSpan : spanOf site events key with
        | none => exact .inl rfl
        | some h =>
            rcases finds_eq_or_missed hFrom hTo
                (mem_groupKeys.mpr ⟨id, evt, hGet, hRow⟩)
                hSpan with hSame | hMissed
            · exact .inl hSame
            · right
              rw [← Bool.not_eq_true]
              intro hThere
              rw [Bool.and_eq_true, Bool.and_eq_true,
                decide_eq_true_eq, meets_iff] at hThere
              exact hSession key h hMissed id evt hGet hRow
                hThere.1.1 hThere.1.2 hThere.2
  unfold bookingIn
  simp only
  rcases hAlike with hSame | hNot
  · rw [hSame]
  · have hNever (b : Bool) :
        (evt.state.holding && decide (some id ≠ exclude) && !b &&
          (bookingHeld site.cfg running id evt).meets w) =
            false := by
      revert hNot
      generalize evt.state.holding = x
      generalize decide (some id ≠ exclude) = y
      generalize
        (bookingHeld site.cfg running id evt).meets w = z
      revert x y z b
      decide
    rw [hNever, hNever]

/- Reads that find the same holds tell nothing apart. -/
theorem sameHolds_of_found
    (hFound :
      (groupKeys site none events).all (fun key =>
        (spanOf site events key).all (fun h =>
          finds site read' h || !finds site read h)) = true) :
    SameHolds site events exclude read read' w := by
  have hNone (key : HoldKey) (h : Hold) :
      ¬Missed site events read read' key h := by
    rintro ⟨hMem, hSpan, hLong, hShort⟩
    have hKey := List.all_eq_true.mp hFound key hMem
    rw [hSpan, Option.all_some, hLong, hShort] at hKey
    cases hKey
  exact
    { own := fun key h hMissed => absurd hMissed (hNone key h)
      hold := fun key h hMissed => absurd hMissed (hNone key h)
      session := fun key h hMissed =>
        absurd hMissed (hNone key h) }

/- What two reads find alike, they count alike. -/
theorem counted_of_sameHolds
    (hFrom : read.1 ≤ read'.1)
    (hTo : read'.2 ≤ read.2)
    (hStart : read'.1 ≤ w.1)
    (hStop : w.2 ≤ read'.2)
    (hSame : SameHolds site events exclude read read' w) :
    counted site running events exclude read w =
      counted site running events exclude read' w := by
  rw [counted_eq, counted_eq]
  apply sumHeld_congr
  · rw [held_meets (hFrom.trans hStart) (hStop.trans hTo),
      held_meets hStart hStop]
    congr 1
    · apply List.filterMap_congr
      intro key hMem
      unfold holdIn
      cases hSpan : spanOf site events key with
      | none => rfl
      | some h =>
          rw [Option.filter_some, Option.filter_some]
          rcases finds_eq_or_missed hFrom hTo hMem hSpan with
            hEq | hMissed
          · rw [hEq]
          · have hNot : h.held.meets w = false := by
              rw [← Bool.not_eq_true, meets_iff]
              exact hSame.hold key h hMissed
            rw [hNot, Bool.and_false, Bool.and_false]
    · apply List.filterMap_congr
      intro entry hMem
      exact bookingIn_eq hFrom hTo hSame.session hMem
  · rw [held_skip, held_skip]
    congr 2
    apply List.filterMap_congr
    intro key hMem
    unfold ownIn
    cases hSpan : spanOf site events key with
    | none => rfl
    | some h =>
        rw [Option.filter_some, Option.filter_some]
        rcases finds_eq_or_missed hFrom hTo hMem hSpan with
          hEq | hMissed
        · rw [hEq]
        · rw [decide_eq_false (hSame.own key h hMissed),
            Bool.and_false, Bool.and_false]

end

--------
-- What Tells Two Reads Apart
--------

/- Nothing runs, and no lab draws on a booking. -/
def Running.idle : Running where
  now := 0
  ranges := []
  ends := fun _ => none
  drawing := fun _ => ([], .zero)
  live := fun _ => []

/- Labs of some size draw on a booking, and nothing runs. -/
def Running.drawn
    (id : Nat)
    (size : Resources) : Running :=
  { Running.idle with
    drawing := fun i =>
      if i = id then ([], size) else ([], .zero) }

/- One range of a class hold is up, and runs. -/
def Running.up
    (now : Instant)
    (key : HoldKey)
    (rangeId : Nat) : Running where
  now := now
  ranges := [(rangeId, .zero)]
  ends := fun _ => none
  drawing := fun _ => ([], .zero)
  live := fun k => if k = key then [rangeId] else []

theorem Running.up_live
    (now : Instant)
    (key key' : HoldKey)
    (rangeId : Nat) :
    (up now key rangeId).live key' =
      if key' = key then [rangeId] else [] :=
  rfl

section

variable {site : Site}
variable {running : Running}
variable {events : Dict Nat ScheduledEvent}
variable {exclude : Option Nat}
variable {read w : Instant × Instant}

/- What is there in a window is counted, and sized. -/
theorem size_le_counted
    {h : Held}
    (hMem : h ∈
      (held site running events read.1 read.2 exclude).1.filter
        (Held.meets w))
    (r : Resource) :
    h.size.get r ≤
      (counted site running events exclude read
        w).resources.get r := by
  have hSum :
      ((((held site running events read.1 read.2
          exclude).1.filter (Held.meets w)).map Held.size).map
            (fun x => x.get r)).sum ≤
        (counted site running events exclude read
          w).resources.get r := by
    rw [counted_eq]
    unfold sumHeld
    simp only
    rw [Resources.total_get, List.map_append, List.sum_append]
    exact Nat.le_add_right _ _
  refine le_trans ?_ hSum
  apply List.le_sum_of_mem
  exact List.mem_map.mpr
    ⟨h.size, List.mem_map.mpr ⟨h, hMem, rfl⟩, rfl⟩

theorem counted_events
    (hFrom : read.1 ≤ w.1)
    (hTo : w.2 ≤ read.2) :
    (counted site running events exclude read w).events =
      ((groupKeys site none events).filterMap
          (holdIn site running events exclude read w)).length +
        (events.entries.filterMap
          (bookingIn site running events exclude read
            w)).length := by
  rw [← List.length_append, ← held_meets hFrom hTo]
  rfl

/- When nothing runs, the size of what is there is counted. -/
theorem counted_resources
    (hRanges : running.ranges = [])
    (hFrom : read.1 ≤ w.1)
    (hTo : w.2 ≤ read.2) :
    (counted site running events exclude read w).resources =
      Resources.total
        (((groupKeys site none events).filterMap
            (holdIn site running events exclude read w) ++
          events.entries.filterMap
            (bookingIn site running events exclude read
              w)).map Held.size) := by
  rw [← held_meets hFrom hTo, counted_eq]
  unfold sumHeld
  simp only [hRanges, List.filter_nil, ite_self, List.map_nil,
    List.append_nil]
  rfl

/- A read that absorbs a session does not see what draws on it. -/
theorem counted_drawn
    {id : Nat}
    {evt : ScheduledEvent}
    (hGet : events.get? id = some evt)
    (hAbsorbs : absorbs site events read evt = true)
    (hFrom : read.1 ≤ w.1)
    (hTo : w.2 ≤ read.2)
    (size : Resources) :
    (counted site (.drawn id size) events exclude read
        w).resources =
      (counted site .idle events exclude read w).resources := by
  rw [counted_resources rfl hFrom hTo,
    counted_resources rfl hFrom hTo]
  congr 3
  apply List.filterMap_congr
  rintro ⟨id', evt'⟩ hMem
  by_cases hId : id' = id
  · subst hId
    rw [Dict.get?_eq_some_iff.mpr hMem] at hGet
    cases hGet
    unfold bookingIn
    simp only [hAbsorbs, Bool.not_true, Bool.and_false,
      Bool.false_and, Bool.false_eq_true, if_false]
  · have hHeld :
        bookingHeld site.cfg (.drawn id size) id' evt' =
          bookingHeld site.cfg .idle id' evt' := by
      unfold bookingHeld Running.drawn Running.idle
      simp only [if_neg hId]
    unfold bookingIn
    simp only [hHeld]

theorem counted_up
    {now : Instant}
    {key : HoldKey}
    {rangeId : Nat}
    (hNow : now < w.2) :
    (counted site (.up now key rangeId) events exclude read
        w).ranges =
      if rangeId ∈
            ((held site (.up now key rangeId) events read.1
              read.2 exclude).1.filter
                (Held.meets w)).flatMap Held.uses ∨
          rangeId ∈
            (held site (.up now key rangeId) events read.1
              read.2 exclude).2 then 0
      else 1 := by
  rw [counted_eq]
  unfold sumHeld
  simp only
  rw [if_pos (show (Running.up now key rangeId).now < w.2 from
    hNow)]
  have hUp :
      (Running.up now key rangeId).ranges =
        [(rangeId, .zero)] := rfl
  have hEnds :
      (Running.up now key rangeId).ends rangeId = none := rfl
  rw [hUp, List.filter_cons]
  simp only [hEnds, List.filter_nil, Bool.and_true]
  generalize
    held site (.up now key rangeId) events read.1 read.2
      exclude = found
  have hMeets :
      (fun h : Held => decide (h.start < w.2) &&
        decide (h.stop > w.1)) = Held.meets w := rfl
  rw [hMeets]
  split
  · rename_i hNot
    rw [if_neg]
    · rfl
    · simpa using hNot
  · rename_i hNot
    rw [if_pos]
    · rfl
    · by_contra hNone
      apply hNot
      simpa using hNone

/-
  A range that is up under one hold is counted, when the read
  does not find the hold and no booking names the range.
-/
theorem up_counted
    {now : Instant}
    {key : HoldKey}
    {h : Hold}
    {rangeId : Nat}
    (hNow : now < w.2)
    (hFrom : read.1 ≤ w.1)
    (hTo : w.2 ≤ read.2)
    (hSpan : spanOf site events key = some h)
    (hFinds : finds site read h = false)
    (hFresh : ∀ id evt, events.get? id = some evt →
      evt.rangeId ≠ some rangeId) :
    (counted site (.up now key rangeId) events exclude read
      w).ranges = 1 := by
  have hLive (key' : HoldKey)
      (hUp : rangeId ∈
        (Running.up now key rangeId).live key') :
      key' = key := by
    by_contra hNe
    rw [Running.up_live, if_neg hNe] at hUp
    cases hUp
  have hMiss (key' : HoldKey) (h' : Hold)
      (hSpan' : spanOf site events key' = some h')
      (hFinds' : finds site read h' = true)
      (hUp : rangeId ∈
        (h'.withLive (Running.up now key rangeId).live).ranges) :
      False := by
    have hKey := hLive h'.key hUp
    rw [spanOf_key hSpan'] at hKey
    rw [hKey, hSpan] at hSpan'
    cases hSpan'
    rw [hFinds] at hFinds'
    cases hFinds'
  rw [counted_up hNow, if_neg]
  rintro (hCovered | hSkip)
  · rw [held_meets hFrom hTo] at hCovered
    rcases List.mem_flatMap.mp hCovered with ⟨x, hx, hUses⟩
    rcases List.mem_append.mp hx with hHold | hBooking
    · rcases List.mem_filterMap.mp hHold with ⟨key', _, hIn⟩
      rcases Option.map_eq_some_iff.mp hIn with ⟨h', hSome, rfl⟩
      rcases Option.filter_eq_some_iff.mp hSome with
        ⟨hSpan', hAll⟩
      rw [Bool.and_eq_true, Bool.and_eq_true] at hAll
      exact hMiss key' h' hSpan' hAll.1.1 hUses
    · rcases List.mem_filterMap.mp hBooking with
        ⟨⟨id, evt⟩, hMem, hIn⟩
      unfold bookingIn at hIn
      split at hIn
      · cases hIn
        rcases List.mem_append.mp hUses with hRange | hLabs
        · exact hFresh id evt (Dict.get?_eq_some_iff.mpr hMem)
            (Option.mem_toList.mp hRange)
        · cases hLabs
      · cases hIn
  · rw [held_skip] at hSkip
    rcases List.mem_append.mp hSkip with hSkip | hOwn
    · rcases List.mem_append.mp hSkip with hRange | hLabs
      · have hGet := Option.mem_toList.mp hRange
        rcases Option.bind_eq_some_iff.mp hGet with
          ⟨evt, hGet, hRangeId⟩
        rcases Option.bind_eq_some_iff.mp hGet with
          ⟨id, _, hGet⟩
        exact hFresh id evt hGet hRangeId
      · split at hLabs
        · rcases List.mem_flatMap.mp hLabs with ⟨_, _, hNone⟩
          cases hNone
        · cases hLabs
    · rcases List.mem_flatMap.mp hOwn with ⟨x, hx, hRanges⟩
      rcases List.mem_filterMap.mp hx with ⟨key', _, hIn⟩
      rcases Option.map_eq_some_iff.mp hIn with ⟨h', hSome, rfl⟩
      rcases Option.filter_eq_some_iff.mp hSome with
        ⟨hSpan', hAll⟩
      rw [Bool.and_eq_true] at hAll
      exact hMiss key' h' hSpan' hAll.1 hRanges

/- And it is left out, when the hold is the booking's own. -/
theorem up_skipped
    {now : Instant}
    {key : HoldKey}
    {h : Hold}
    {rangeId : Nat}
    (hNow : now < w.2)
    (hMem : key ∈ groupKeys site none events)
    (hSpan : spanOf site events key = some h)
    (hFinds : finds site read h = true)
    (hOwn : some key = ownKey site events exclude) :
    (counted site (.up now key rangeId) events exclude read
      w).ranges = 0 := by
  rw [counted_up hNow, if_pos]
  right
  rw [held_skip]
  apply List.mem_append_right
  refine List.mem_flatMap.mpr
    ⟨h.withLive (Running.up now key rangeId).live,
      List.mem_filterMap.mpr ⟨key, hMem, ?_⟩, ?_⟩
  · unfold ownIn
    rw [hSpan, Option.filter_some, hFinds, decide_eq_true hOwn]
    rfl
  · unfold Hold.withLive
    simp only
    rw [spanOf_key hSpan, Running.up_live, if_pos rfl]
    exact List.mem_singleton_self rangeId

theorem fresh_range
    (events : Dict Nat ScheduledEvent) :
    ∃ rangeId, ∀ id evt, events.get? id = some evt →
      evt.rangeId ≠ some rangeId := by
  rcases Infinite.exists_notMem_finset
    (events.entries.filterMap (fun entry =>
      entry.2.rangeId)).toFinset with ⟨rangeId, hFresh⟩
  refine ⟨rangeId, ?_⟩
  intro id evt hGet hRange
  apply hFresh
  rw [List.mem_toFinset]
  exact List.mem_filterMap.mpr
    ⟨(id, evt), Dict.get?_eq_some_iff.mp hGet, hRange⟩

section

variable {read' : Instant × Instant}

/- A session that only the shorter read counts by itself. -/
theorem session_of_counted
    (hFrom : read.1 ≤ read'.1)
    (hTo : read'.2 ≤ read.2)
    (hStart : read'.1 ≤ w.1)
    (hStop : w.2 ≤ read'.2)
    (hAll : ∀ running,
      counted site running events exclude read w =
        counted site running events exclude read' w)
    {key : HoldKey}
    {h : Hold}
    (hMissed : Missed site events read read' key h)
    {id : Nat}
    {evt : ScheduledEvent}
    (hGet : events.get? id = some evt)
    (hRow : rowKey site none evt = some key)
    (hHolding : evt.state.holding = true)
    (hOther : some id ≠ exclude) :
    ¬(evt.startTime - site.cfg.lead < w.2 ∧
      w.1 < evt.endTime + site.cfg.grace) := by
  intro hMeets
  rcases hMissed with ⟨_, hSpan, hLong, hShort⟩
  have hAbsorbs (r : Instant × Instant) :
      absorbs site events r evt = finds site r h := by
    unfold absorbs
    rw [hRow, Option.bind_some, hSpan]
    rfl
  -- a lab that is larger than all the longer read counts
  let most :=
    (counted site .idle events exclude read w).resources.vcpu
  let size : Resources := ⟨most + 1, 0, 0⟩
  have hLonger :
      (counted site (.drawn id size) events exclude read
          w).resources.vcpu = most :=
    congrArg Resources.vcpu
      (counted_drawn hGet ((hAbsorbs read).trans hLong)
        (hFrom.trans hStart) (hStop.trans hTo) size)
  have hShorter :
      most + 1 ≤
        (counted site (.drawn id size) events exclude read'
          w).resources.vcpu := by
    have hIn :
        bookingHeld site.cfg (.drawn id size) id evt ∈
          (held site (.drawn id size) events read'.1 read'.2
            exclude).1.filter (Held.meets w) := by
      rw [held_meets hStart hStop]
      apply List.mem_append_right
      refine List.mem_filterMap.mpr
        ⟨(id, evt), Dict.get?_eq_some_iff.mp hGet, ?_⟩
      have hThere :
          (bookingHeld site.cfg (.drawn id size) id evt).meets
            w = true :=
        meets_iff.mpr hMeets
      unfold bookingIn
      simp only [hHolding, decide_eq_true hOther,
        hAbsorbs read', hShort, hThere, Bool.not_false,
        Bool.and_true, if_true]
    have hSize := size_le_counted hIn .vcpu
    unfold bookingHeld Running.drawn at hSize
    simp only [if_true] at hSize
    rw [Resources.larger_get] at hSize
    exact (Nat.le_max_right _ _).trans hSize
  rw [hAll (.drawn id size)] at hLonger
  omega

/- A hold that only the longer read counts. -/
theorem hold_of_counted
    (hFrom : read.1 ≤ read'.1)
    (hTo : read'.2 ≤ read.2)
    (hStart : read'.1 ≤ w.1)
    (hStop : w.2 ≤ read'.2)
    (hAll : ∀ running,
      counted site running events exclude read w =
        counted site running events exclude read' w)
    {key : HoldKey}
    {h : Hold}
    (hMissed : Missed site events read read' key h)
    (hOther : some key ≠ ownKey site events exclude) :
    ¬(h.start < w.2 ∧ w.1 < h.stop) := by
  intro hMeets
  have hEvents := congrArg Committed.events (hAll .idle)
  rw [counted_events (hFrom.trans hStart) (hStop.trans hTo),
    counted_events hStart hStop] at hEvents
  have hBookings :
      events.entries.filterMap
          (bookingIn site .idle events exclude read w) =
        events.entries.filterMap
          (bookingIn site .idle events exclude read' w) := by
    apply List.filterMap_congr
    intro entry hMem
    refine bookingIn_eq hFrom hTo ?_ hMem
    intro key h hMissed id evt hGet hRow hHolding hOther
    exact session_of_counted hFrom hTo hStart hStop hAll hMissed
      hGet hRow hHolding hOther
  rcases hMissed with ⟨hMem, hSpan, hLong, hShort⟩
  have hFewer :
      ((groupKeys site none events).filterMap
          (holdIn site .idle events exclude read' w)).length <
        ((groupKeys site none events).filterMap
          (holdIn site .idle events exclude read w)).length := by
    refine Loads.length_filterMap_lt ?_ hMem ?_ ?_
    · intro key' _ hKept
      unfold holdIn at hKept ⊢
      cases hSpan' : spanOf site events key' with
      | none =>
          rw [hSpan'] at hKept
          cases hKept
      | some h' =>
          rw [hSpan', Option.isSome_map,
            Option.filter_some] at hKept
          rw [Option.isSome_map, Option.filter_some]
          split at hKept
          · rename_i hCounts
            rw [Bool.and_eq_true, Bool.and_eq_true] at hCounts
            rw [if_pos]
            · rfl
            · rw [Bool.and_eq_true, Bool.and_eq_true]
              exact ⟨⟨finds_mono hFrom hTo hCounts.1.1,
                hCounts.1.2⟩, hCounts.2⟩
          · cases hKept
    · unfold holdIn
      rw [hSpan, Option.isSome_map, Option.filter_some, hLong,
        decide_eq_true hOther, meets_iff.mpr hMeets]
      rfl
    · unfold holdIn
      rw [hSpan, Option.filter_some, hShort]
      rfl
  rw [hBookings] at hEvents
  omega

/- The hold of the booking that is checked again. -/
theorem own_of_counted
    (hStart : read'.1 ≤ w.1)
    (hStop : w.2 ≤ read'.2)
    (hAll : ∀ running,
      counted site running events exclude read w =
        counted site running events exclude read' w)
    {key : HoldKey}
    {h : Hold}
    (hMissed : Missed site events read read' key h) :
    some key ≠ ownKey site events exclude := by
  intro hOwn
  rcases hMissed with ⟨hMem, hSpan, hLong, hShort⟩
  rcases fresh_range events with ⟨rangeId, hFresh⟩
  have hBefore (t : Int) : t - 1 < t := by omega
  have hNow : w.2 - 1 < w.2 := hBefore w.2
  have hSkipped :=
    @up_skipped site events exclude read w (w.2 - 1) key h
      rangeId hNow hMem hSpan hLong hOwn
  have hUp :=
    @up_counted site events exclude read' w (w.2 - 1) key h
      rangeId hNow hStart hStop hSpan hShort hFresh
  rw [hAll, hUp] at hSkipped
  cases hSkipped

/- Reads that count alike whatever runs find the same. -/
theorem sameHolds_of_counted
    (hFrom : read.1 ≤ read'.1)
    (hTo : read'.2 ≤ read.2)
    (hStart : read'.1 ≤ w.1)
    (hStop : w.2 ≤ read'.2)
    (hAll : ∀ running,
      counted site running events exclude read w =
        counted site running events exclude read' w) :
    SameHolds site events exclude read read' w where
  own := fun _ _ hMissed =>
    own_of_counted hStart hStop hAll hMissed
  hold := fun _ _ hMissed =>
    hold_of_counted hFrom hTo hStart hStop hAll hMissed
      (own_of_counted hStart hStop hAll hMissed)
  session := fun _ _ hMissed _ _ hGet hRow hHolding hOther =>
    session_of_counted hFrom hTo hStart hStop hAll hMissed hGet
      hRow hHolding hOther

end

end

--------
-- Batched Reads
--------

/- A step that divides the stretch makes whole slots. -/
theorem slots_eq
    {start stop step : Int}
    (hStep : 0 < step)
    (hDivides : step ∣ stop - start) :
    slots start stop step =
      (List.range ((stop - start) / step).toNat).map
        (fun (i : Nat) =>
          (start + i * step, start + (i + 1) * step)) := by
  rcases hDivides with ⟨n, hn⟩
  have hLast : (step - 1) / step = 0 :=
    Int.ediv_eq_zero_of_lt (by omega) (by omega)
  have hCount :
      (stop - start + step - 1) / step =
        (stop - start) / step := by
    rw [hn, Int.mul_ediv_cancel_left n hStep.ne',
      show step * n + step - 1 = step - 1 + step * n by ring,
      Int.add_mul_ediv_left _ _ hStep.ne', hLast, zero_add]
  unfold slots
  rw [hCount]
  apply List.map_congr_left
  intro i _
  rw [add_mul, one_mul, add_assoc]

/- And each slot is inside the stretch. -/
theorem slot_within
    {start stop step : Int}
    (hStep : 0 < step)
    (hDivides : step ∣ stop - start)
    {w : Instant × Instant}
    (hMem : w ∈ slots start stop step) :
    start ≤ w.1 ∧ w.2 ≤ stop := by
  rw [slots_eq hStep hDivides] at hMem
  rcases List.mem_map.mp hMem with ⟨i, hi, rfl⟩
  rcases hDivides with ⟨n, hn⟩
  rw [hn, Int.mul_ediv_cancel_left n hStep.ne',
    List.mem_range] at hi
  have hCount : (i : Int) + 1 ≤ n := by omega
  constructor
  · exact le_add_of_nonneg_right
      (mul_nonneg (Int.natCast_nonneg i) hStep.le)
  · have hLe := mul_le_mul_of_nonneg_right hCount hStep.le
    rw [mul_comm n step, ← hn] at hLe
    linarith

/-
  The batched reads count what the plain one does, whatever
  runs, just when no window is told apart from the stretch by
  a class hold.
-/
theorem batched_iff
    (site : Site)
    (events : Dict Nat ScheduledEvent) :
    (∀ windows exclude,
      (∀ running,
        committedMany site running events windows exclude =
          windows.map (fun w =>
            committed site running events w.1 w.2 exclude)) ↔
        ∀ w ∈ windows,
          SameHolds site events exclude (hull windows) w w) ∧
    (∀ start stop step, 0 < step → step ∣ stop - start →
      ((∀ running,
        committedSeries site running events start stop step =
          (List.range ((stop - start) / step).toNat).map
            (fun (i : Nat) =>
              committed site running events (start + i * step)
                (start + (i + 1) * step) none)) ↔
        ∀ i : Nat, i < ((stop - start) / step).toNat →
          SameHolds site events none (start, stop)
            (start + i * step, start + (i + 1) * step)
            (start + i * step, start + (i + 1) * step))) := by
  have hAlike
      {exclude : Option Nat}
      {read w : Instant × Instant}
      (hFrom : read.1 ≤ w.1)
      (hTo : w.2 ≤ read.2) :
      (∀ running, counted site running events exclude read w =
        counted site running events exclude w w) ↔
        SameHolds site events exclude read w w :=
    ⟨sameHolds_of_counted hFrom hTo le_rfl le_rfl,
      fun hSame _ =>
        counted_of_sameHolds hFrom hTo le_rfl le_rfl hSame⟩
  constructor
  · intro windows exclude
    simp only [committedMany_eq, committed_eq,
      List.map_inj_left]
    constructor
    · intro hAll w hMem
      refine (hAlike (hull_le hMem).1 (hull_le hMem).2).mp ?_
      intro running
      exact hAll running w hMem
    · intro hSame running w hMem
      exact (hAlike (hull_le hMem).1 (hull_le hMem).2).mpr
        (hSame w hMem) running
  · intro start stop step hStep hDivides
    have hWithin (i : Nat)
        (hi : i < ((stop - start) / step).toNat) :
        start ≤ start + i * step ∧
          start + (i + 1) * step ≤ stop := by
      apply @slot_within start stop step hStep hDivides
        (start + i * step, start + (i + 1) * step)
      rw [slots_eq hStep hDivides]
      exact List.mem_map.mpr ⟨i, List.mem_range.mpr hi, rfl⟩
    simp only [committedSeries_eq, slots_eq hStep hDivides,
      List.map_map, List.map_inj_left, List.mem_range,
      Function.comp_apply]
    constructor
    · intro hAll i hi
      refine (hAlike (hWithin i hi).1 (hWithin i hi).2).mp ?_
      intro running
      exact hAll running i hi
    · intro hSame running i hi
      exact (hAlike (hWithin i hi).1 (hWithin i hi).2).mpr
        (hSame i hi) running

end Scheduler

end TrueNorth

--------
-- After the Class
--------

namespace TrueNorth

namespace Scheduler

namespace AfterClass

/- An instant, by its day and hour. -/
def moment (d h : Int) : Instant :=
  d * day + h * 3600000000

/- An open class of two seats, up to the end of day four. -/
def site : Site where
  cfg := ⟨1800000000, 900000000⟩
  policy := .block
  classes :=
    Dict.empty.set 7
      { tenantId := 1
        isOpen := true
        endDate := 4
        seats := 2
        rangeIds := [50] }
  templates := Dict.empty.set 3 ⟨4, 8192, 80⟩

def session
    (state : EventState)
    (d : Int) : ScheduledEvent where
  tenantId := 1
  state := state
  startTime := moment d 9
  endTime := moment d 12
  rangeId := none
  templateId := some 3
  instructorId := none
  scenarioId := none
  exerciseId := none
  session := some ⟨7, .individual⟩
  approval := some ⟨none⟩
  size := ⟨8, 16384, 160⟩
  autoProvisioned := false

/- An approved session, and one that waits for approval. -/
def events : Dict Nat ScheduledEvent :=
  (Dict.empty.set 1 (session .scheduled 2)).set 2
    (session .pendingApproval 3)

/- During the first session, one of its ranges is up. -/
def running : Running where
  now := moment 2 10
  ranges := [(50, ⟨4, 8192, 80⟩)]
  ends := fun _ => none
  drawing := fun _ => ([], .zero)
  live := fun _ => [50]

def windows : List (Instant × Instant) :=
  [(moment 3 8, moment 3 13), (moment 6 8, moment 6 13)]

/- Inside the class's days, the hours of a series agree. -/
theorem series_in_class :
    committedSeries site running events (moment 2 8) (moment 2 10)
        3600000000 =
      [committed site running events (moment 2 8) (moment 2 9) none,
        committed site running events (moment 2 9) (moment 2 10)
          none] := by
  have hSame (i : Nat) (hi : i < 2) :
      SameHolds site events none (moment 2 8, moment 2 10)
        (moment 2 8 + i * 3600000000,
          moment 2 8 + (i + 1) * 3600000000)
        (moment 2 8 + i * 3600000000,
          moment 2 8 + (i + 1) * 3600000000) := by
    apply sameHolds_of_found
    revert i
    decide
  exact ((batched_iff site events).2 (moment 2 8) (moment 2 10)
    3600000000 (by decide) (by decide)).mpr hSame running

/-
  Read together with the window in the class, the one after
  it does not count the class's range, which still runs.
-/
theorem batched_not_plain :
    ¬ ∀ site running events windows exclude,
      committedMany site running events windows exclude =
        windows.map (fun w =>
          committed site running events w.1 w.2 exclude) := by
  intro hAll
  exact absurd
    (hAll site running events windows (some 2)) (by decide)

end AfterClass

end Scheduler

end TrueNorth
