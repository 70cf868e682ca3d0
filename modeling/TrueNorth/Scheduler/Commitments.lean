import TrueNorth.Scheduler.Admissions

/-
  What the provider counts in a window is never less than
  what stands at any instant of it, so that a booking that
  was found to fit does fit at every instant of its window.

  Key definitions include:
    * `Held.item`
    * `Booked`
    * `Room`

  Main theorems:
    * `standing_le_held`
    * `assess_room`
-/

--------
-- Loads of a Resource
--------

namespace TrueNorth

namespace Scheduler

/- What is held of one resource. -/
def Held.item
    (r : Resource)
    (h : Held) : Loads.Item Instant where
  start := h.start
  stop := h.stop
  weight := h.size.get r

theorem Held.item_loadAt
    (t : Instant)
    (r : Resource)
    (h : Held) :
    (h.item r).loadAt t =
      if h.start ≤ t ∧ t < h.stop then h.size.get r else 0 :=
  if_congr Iff.rfl rfl rfl

theorem Held.item_loadOver
    (t₀ t₁ : Instant)
    (r : Resource)
    (h : Held) :
    (h.item r).loadOver t₀ t₁ =
      if h.start < t₁ ∧ t₀ < h.stop then h.size.get r else 0 :=
  if_congr Iff.rfl rfl rfl

namespace Resources

theorem total_get
    (xs : List Resources)
    (r : Resource) :
    (total xs).get r = (xs.map (fun x => x.get r)).sum := by
  cases r with
  | vcpu => rfl
  | ram => rfl
  | disk => rfl

@[simp] theorem scaled_get
    (x : Resources)
    (n : Nat)
    (r : Resource) :
    (x.scaled n).get r = x.get r * n := by
  cases r with
  | vcpu => rfl
  | ram => rfl
  | disk => rfl

theorem larger_get
    (x y : Resources)
    (r : Resource) :
    (x.larger y).get r = max (x.get r) (y.get r) := by
  cases r with
  | vcpu => rfl
  | ram => rfl
  | disk => rfl

end Resources

/- What is held by those that are there. -/
theorem sum_filter_size
    (p : Held → Bool)
    (hs : List Held)
    (r : Resource) :
    (((hs.filter p).map Held.size).map (fun x => x.get r)).sum =
      (hs.map (fun h =>
        if p h = true then h.size.get r else 0)).sum := by
  induction hs with
  | nil => rfl
  | cons h hs ih =>
      by_cases hp : p h = true
      · rw [List.filter_cons_of_pos hp]
        simp only [List.map_cons, List.sum_cons, if_pos hp]
        rw [← ih]
      · rw [List.filter_cons_of_neg hp]
        simp only [List.map_cons, List.sum_cons, if_neg hp]
        rw [← ih, Nat.zero_add]

theorem demandAt_get
    (site : Site)
    (events : Dict Nat ScheduledEvent)
    (t : Instant)
    (r : Resource) :
    (demandAt site events t).get r =
      Loads.loadAt t
        ((standing site events none none).map (Held.item r)) := by
  unfold demandAt Loads.loadAt
  rw [Resources.total_get, sum_filter_size, List.map_map]
  apply congrArg List.sum
  apply List.map_congr_left
  intro h _
  rw [Function.comp_apply, Held.item_loadAt]
  simp

/- A window counts everything that meets it, and more. -/
theorem loadOver_le_sumHeld
    (running : Running)
    (hs : List Held)
    (t₀ t₁ : Instant)
    (skip : List Nat)
    (r : Resource) :
    Loads.loadOver t₀ t₁ (hs.map (Held.item r)) ≤
      (sumHeld running hs t₀ t₁ skip).resources.get r := by
  unfold sumHeld
  simp only
  rw [Resources.total_get, List.map_append, List.sum_append,
    sum_filter_size]
  have hSame :
      Loads.loadOver t₀ t₁ (hs.map (Held.item r)) =
        (hs.map (fun h =>
          if (h.start < t₁ && h.stop > t₀) = true then
            h.size.get r
          else 0)).sum := by
    unfold Loads.loadOver
    rw [List.map_map]
    apply congrArg List.sum
    apply List.map_congr_left
    intro h _
    rw [Function.comp_apply, Held.item_loadOver]
    simp
  rw [hSame]
  exact Nat.le_add_right _ _

--------
-- Class Holds
--------

theorem latest_gt
    {t a : Instant}
    {ts : List Instant} :
    t < latest a ts ↔ t < a ∨ ∃ x ∈ ts, t < x := by
  unfold latest
  induction ts with
  | nil => simp
  | cons x ts ih =>
      rw [List.foldr_cons, lt_max_iff, ih]
      simp only [List.mem_cons, exists_eq_or_imp]
      constructor
      · rintro (h | h | h)
        · exact .inr (.inl h)
        · exact .inl h
        · exact .inr (.inr h)
      · rintro (h | h | h)
        · exact .inr (.inl h)
        · exact .inl h
        · exact .inr (.inr h)

theorem earliest_le
    {t : Instant}
    {ts : List Instant}
    (hSome : ts ≠ []) :
    earliest ts ≤ t ↔ ∃ x ∈ ts, x ≤ t := by
  cases ts with
  | nil => exact absurd rfl hSome
  | cons a ts =>
      rw [earliest]
      induction ts with
      | nil => simp
      | cons x ts ih =>
          rw [List.foldr_cons, min_le_iff, ih (by simp)]
          simp only [List.mem_cons, exists_eq_or_imp]
          constructor
          · rintro (h | h | h)
            · exact .inr (.inl h)
            · exact .inl h
            · exact .inr (.inr h)
          · rintro (h | h | h)
            · exact .inr (.inl h)
            · exact .inl h
            · exact .inr (.inr h)

/- The class of the key ends on or after the day. -/
def recent
    (site : Site)
    (since : Int)
    (key : HoldKey) : Bool :=
  match site.classes.get? key.classId with
  | none => false
  | some cls => since ≤ cls.endDate

theorem rowKey_some
    {site : Site}
    {since : Option Int}
    {evt : ScheduledEvent}
    {key : HoldKey}
    (hRow : rowKey site since evt = some key) :
    holdKey site evt = some key ∧
      evt.state.needsRanges = true ∧
      (holdSize site key).isSome = true := by
  unfold rowKey at hRow
  cases hKey : holdKey site evt with
  | none =>
      rw [hKey] at hRow
      cases hRow
  | some key' =>
      rw [hKey] at hRow
      simp only at hRow
      split at hRow
      · cases hRow
      · split at hRow
        · rename_i hAll
          cases hRow
          simp only [Bool.and_eq_true] at hAll
          exact ⟨rfl, hAll.1.2, hAll.2⟩
        · cases hRow

/- A window leaves out the classes that are long over. -/
theorem rowKey_since
    (site : Site)
    (since : Int)
    (evt : ScheduledEvent) :
    rowKey site (some since) evt =
      (rowKey site none evt).filter (recent site since) := by
  unfold rowKey
  cases holdKey site evt with
  | none => rfl
  | some key =>
      simp only
      cases hClass : site.classes.get? key.classId with
      | none => rfl
      | some cls =>
          have hRecent :
              recent site since key =
                decide (since ≤ cls.endDate) := by
            unfold recent
            rw [hClass]
          simp only [Option.all_some, Option.all_none,
            Bool.and_true]
          rw [apply_ite (Option.filter (recent site since)),
            Option.filter_some, hRecent, Option.filter_none]
          generalize (holdSize site key).isSome = sized
          generalize evt.state.needsRanges = needs
          by_cases hDay : since ≤ cls.endDate
          · simp only [hDay, decide_true, Bool.and_true, if_true]
          · simp only [hDay, decide_false, Bool.and_false,
              Bool.false_and, ite_self, Bool.false_eq_true,
              if_false]

theorem groupKeys_since
    (site : Site)
    (since : Int)
    (events : Dict Nat ScheduledEvent) :
    groupKeys site (some since) events =
      (groupKeys site none events).filter
        (recent site since) := by
  unfold groupKeys
  rw [Dict.filter_fromkeys, List.filter_filterMap]
  simp only [rowKey_since]

theorem members_since
    {site : Site}
    {since : Int}
    {key : HoldKey}
    (hRecent : recent site since key = true)
    (events : Dict Nat ScheduledEvent) :
    members site (some since) events key =
      members site none events key := by
  unfold members
  apply congrArg (fun f => events.entries.filterMap f)
  funext entry
  unfold member?
  have hSame :
      (rowKey site (some since) entry.2 = some key) ↔
        rowKey site none entry.2 = some key := by
    rw [rowKey_since, Option.filter_eq_some_iff]
    exact and_iff_left hRecent
  simp only [hSame]

theorem mem_groupKeys
    {site : Site}
    {since : Option Int}
    {events : Dict Nat ScheduledEvent}
    {key : HoldKey} :
    key ∈ groupKeys site since events ↔
      ∃ id evt, events.get? id = some evt ∧
        rowKey site since evt = some key := by
  unfold groupKeys
  rw [Dict.mem_fromkeys, List.mem_filterMap]
  constructor
  · rintro ⟨⟨id, evt⟩, hMem, hRow⟩
    exact ⟨id, evt, Dict.get?_eq_some_iff.mpr hMem, hRow⟩
  · rintro ⟨id, evt, hGet, hRow⟩
    exact ⟨(id, evt), Dict.get?_eq_some_iff.mp hGet, hRow⟩

theorem mem_members
    {site : Site}
    {since : Option Int}
    {events : Dict Nat ScheduledEvent}
    {key : HoldKey}
    {m : Member} :
    m ∈ members site since events key ↔
      ∃ evt, events.get? m.id = some evt ∧
        rowKey site since evt = some key ∧
        m =
          { id := m.id
            holding := evt.state.holding
            startTime := evt.startTime
            endTime := evt.endTime } := by
  unfold members
  rw [List.mem_filterMap]
  constructor
  · rintro ⟨⟨id, evt⟩, hMem, hMember⟩
    unfold member? at hMember
    split at hMember
    · rename_i hRow
      cases hMember
      exact ⟨evt, Dict.get?_eq_some_iff.mpr hMem, hRow, rfl⟩
    · cases hMember
  · rintro ⟨evt, hGet, hRow, hMember⟩
    refine ⟨(m.id, evt), Dict.get?_eq_some_iff.mp hGet, ?_⟩
    unfold member?
    rw [if_pos hRow]
    exact congrArg some hMember.symm

theorem member_of_get?
    {site : Site}
    {since : Option Int}
    {events : Dict Nat ScheduledEvent}
    {key : HoldKey}
    {id : Nat}
    {evt : ScheduledEvent}
    (hGet : events.get? id = some evt)
    (hRow : rowKey site since evt = some key) :
    (⟨id, evt.state.holding, evt.startTime, evt.endTime⟩ :
        Member) ∈
      members site since events key :=
  mem_members.mpr ⟨evt, hGet, hRow, rfl⟩

/- A hold is the same whatever ranges of it are up. -/
theorem hold?_live
    (site : Site)
    (live : HoldKey → List Nat)
    (group : List Member)
    (key : HoldKey) :
    hold? site live group key =
      (hold? site (fun _ => []) group key).map (fun h =>
        { h with ranges := live key }) := by
  unfold hold?
  cases holdSize site key with
  | none => rfl
  | some size =>
      cases site.classes.get? key.classId with
      | none => rfl
      | some cls => rfl

theorem hold?_key
    {site : Site}
    {live : HoldKey → List Nat}
    {group : List Member}
    {key : HoldKey}
    {h : Hold}
    (hHold : hold? site live group key = some h) :
    h.key = key ∧
      h.events = group.map Member.id ∧
      holdSize site key = some h.resources := by
  unfold hold? at hHold
  split at hHold
  · rename_i size cls hSize hClass
    cases hHold
    exact ⟨rfl, rfl, hSize⟩
  · cases hHold

--------
-- Spans of Holds
--------

/-
  What is so of the bookings in every run: a session inside a
  hold is approved and not over, begins before its class's
  ranges would be torn down, and has the size of the hold.
-/
structure Booked
    (site : Site)
    (events : Dict Nat ScheduledEvent) : Prop where
  approval : ∀ id evt, events.get? id = some evt →
    evt.approval.isSome = evt.session.isSome
  pending : ∀ id evt, events.get? id = some evt →
    evt.state = .pendingApproval →
      evt.approval.isSome = true
  holding : ∀ id evt key, events.get? id = some evt →
    rowKey site none evt = some key →
      evt.state.holding = true
  early : ∀ id evt key cls, events.get? id = some evt →
    rowKey site none evt = some key →
    site.classes.get? key.classId = some cls →
      evt.startTime - site.cfg.lead ≤
        lastDayEnd cls.endDate + site.cfg.grace
  sized : ∀ id evt key size, events.get? id = some evt →
    holdKey site evt = some key →
    holdSize site key = some size →
      evt.size = size

/- A hold stands from its first session on. -/
theorem standingHold_start
    {site : Site}
    {events : Dict Nat ScheduledEvent}
    {key : HoldKey}
    {h : Held}
    (hHolding : ∀ id evt, events.get? id = some evt →
      rowKey site none evt = some key →
        evt.state.holding = true)
    (hMem : key ∈ groupKeys site none events)
    (hHold : standingHold site events key = some h)
    (t : Instant) :
    h.start ≤ t ↔
      ∃ id evt, events.get? id = some evt ∧
        rowKey site none evt = some key ∧
        evt.startTime - site.cfg.lead ≤ t := by
  have hAll :
      (members site none events key).filter Member.holding =
        members site none events key := by
    apply List.filter_eq_self.mpr
    intro m hm
    rcases mem_members.mp hm with ⟨evt, hGet, hRow, hSame⟩
    rw [hSame]
    exact hHolding m.id evt hGet hRow
  have hSome :
      (members site none events key).map Member.startTime ≠
        [] := by
    rcases mem_groupKeys.mp hMem with ⟨id, evt, hGet, hRow⟩
    intro hNone
    have hm := member_of_get? hGet hRow
    rw [List.map_eq_nil_iff.mp hNone] at hm
    cases hm
  unfold standingHold hold? at hHold
  split at hHold
  · simp only [hAll, ite_self] at hHold
    cases hHold
    simp only [Hold.held]
    rw [sub_le_iff_le_add, earliest_le hSome]
    constructor
    · rintro ⟨x, hx, hLe⟩
      rcases List.mem_map.mp hx with ⟨m, hm, rfl⟩
      rcases mem_members.mp hm with ⟨evt, hGet, hRow, hSame⟩
      rw [hSame] at hLe
      exact ⟨m.id, evt, hGet, hRow, by
        rw [sub_le_iff_le_add]
        exact hLe⟩
    · rintro ⟨id, evt, hGet, hRow, hLe⟩
      rw [sub_le_iff_le_add] at hLe
      refine ⟨evt.startTime, ?_, hLe⟩
      exact List.mem_map.mpr
        ⟨_, member_of_get? hGet hRow, rfl⟩
  · cases hHold

/- A hold stands to its class's end, or its last session's. -/
theorem standingHold_stop
    {site : Site}
    {events : Dict Nat ScheduledEvent}
    {key : HoldKey}
    {cls : Class}
    {h : Held}
    (hClass : site.classes.get? key.classId = some cls)
    (hHold : standingHold site events key = some h)
    (t : Instant) :
    t < h.stop ↔
      t < lastDayEnd cls.endDate + site.cfg.grace ∨
        ∃ id evt, events.get? id = some evt ∧
          rowKey site none evt = some key ∧
          t < evt.endTime + site.cfg.grace := by
  unfold standingHold hold? at hHold
  rw [hClass] at hHold
  split at hHold
  · rename_i size cls' hSize hSame
    cases hSame
    cases hHold
    simp only [Hold.held]
    rw [← sub_lt_iff_lt_add, latest_gt, sub_lt_iff_lt_add]
    apply or_congr Iff.rfl
    constructor
    · rintro ⟨x, hx, hLt⟩
      rcases List.mem_map.mp hx with ⟨m, hm, rfl⟩
      rcases mem_members.mp hm with ⟨evt, hGet, hRow, hSame⟩
      rw [hSame, sub_lt_iff_lt_add] at hLt
      exact ⟨m.id, evt, hGet, hRow, hLt⟩
    · rintro ⟨id, evt, hGet, hRow, hLt⟩
      rw [← sub_lt_iff_lt_add] at hLt
      refine ⟨evt.endTime, ?_, hLt⟩
      exact List.mem_map.mpr
        ⟨_, member_of_get? hGet hRow, rfl⟩
  · cases hHold

theorem standingHold_size
    {site : Site}
    {events : Dict Nat ScheduledEvent}
    {key : HoldKey}
    {h : Held}
    (hHold : standingHold site events key = some h) :
    holdSize site key = some h.size ∧
      ∃ cls, site.classes.get? key.classId = some cls := by
  unfold standingHold hold? at hHold
  split at hHold
  · rename_i size cls hSize hClass
    cases hHold
    exact ⟨hSize, cls, hClass⟩
  · cases hHold

--------
-- What a Window Counts
--------

/- The load of what may be held. -/
def optLoad
    (t : Instant)
    (r : Resource)
    (h? : Option Held) : Nat :=
  h?.elim 0 (fun h => (h.item r).loadAt t)

theorem loadAt_filterMap
    {A : Type}
    (t : Instant)
    (r : Resource)
    (g : A → Option Held)
    (xs : List A) :
    Loads.loadAt t ((xs.filterMap g).map (Held.item r)) =
      (xs.map (fun x => optLoad t r (g x))).sum := by
  unfold Loads.loadAt optLoad
  rw [List.map_map]
  exact Loads.sum_filterMap g _ xs

theorem loadOver_filterMap
    {A : Type}
    (t₀ t₁ : Instant)
    (r : Resource)
    (g : A → Option Held)
    (xs : List A) :
    Loads.loadOver t₀ t₁ ((xs.filterMap g).map (Held.item r)) =
      (xs.map (fun x => (g x).elim 0 (fun h =>
        (h.item r).loadOver t₀ t₁))).sum := by
  unfold Loads.loadOver
  rw [List.map_map]
  exact Loads.sum_filterMap g _ xs

/- The load of a session whose hold a window leaves out. -/
def strayLoad
    (site : Site)
    (since : Int)
    (skipKey : Option HoldKey)
    (t : Instant)
    (r : Resource)
    (entry : Nat × ScheduledEvent) : Nat :=
  match rowKey site none entry.2 with
  | none => 0
  | some key =>
      if !recent site since key && some key ≠ skipKey then
        optLoad t r
          (some
            { start := entry.2.startTime - site.cfg.lead
              stop := entry.2.endTime + site.cfg.grace
              size := entry.2.size
              uses := [] })
      else
        0

section

variable {site : Site}
variable {running : Running}
variable {events : Dict Nat ScheduledEvent}
variable {lo hi t₀ t₁ t : Instant}
variable {exclude : Option Nat}
variable {skipKey : Option HoldKey}

/- The first day a window's classes may end on. -/
def firstDay (site : Site) (lo : Instant) : Int :=
  (lo - site.cfg.grace - site.cfg.grace - day) / day

/- The sessions that a window counts in holds are recent. -/
theorem recent_of_absorbed
    {id : Nat}
    {evt : ScheduledEvent}
    (hGet : events.get? id = some evt)
    (hAbsorbed :
      id ∈ (holds site running.live events (lo - site.cfg.grace)
        (hi + site.cfg.lead)).flatMap Hold.events) :
    ∃ key, rowKey site none evt = some key ∧
      recent site (firstDay site lo) key = true := by
  rcases List.mem_flatMap.mp hAbsorbed with ⟨h, hMem, hId⟩
  unfold holds at hMem
  rcases List.mem_filterMap.mp hMem with ⟨key, hKey, hHold⟩
  rcases Option.filter_eq_some_iff.mp hHold with ⟨hHold, _⟩
  rw [(hold?_key hHold).2.1] at hId
  rcases List.mem_map.mp hId with ⟨m, hm, rfl⟩
  rcases mem_members.mp hm with ⟨evt', hGet', hRow, _⟩
  rw [hGet] at hGet'
  cases hGet'
  rw [rowKey_since] at hRow
  rcases Option.filter_eq_some_iff.mp hRow with ⟨hRow, hRecent⟩
  exact ⟨key, hRow, hRecent⟩

/- Where a span that is there at an instant lies. -/
theorem span_meets
    {a z lo hi t₀ t₁ t lead grace : Int}
    (hStart : a - lead ≤ t)
    (hStop : t < z + grace)
    (hLo : lo ≤ t₀)
    (hHi : t₁ ≤ hi)
    (hFrom : t₀ ≤ t)
    (hTo : t < t₁) :
    a < hi + lead ∧ lo - grace < z ∧
      a - lead < t₁ ∧ t₀ < z + grace := by
  omega

theorem hold_meets
    {a z lo hi t₀ t₁ t lead grace : Int}
    (hLead : 0 ≤ lead)
    (hGrace : 0 ≤ grace)
    (hStart : a ≤ t)
    (hStop : t < z)
    (hLo : lo ≤ t₀)
    (hHi : t₁ ≤ hi)
    (hFrom : t₀ ≤ t)
    (hTo : t < t₁) :
    a < hi + lead ∧ lo - grace < z ∧ a < t₁ ∧ t₀ < z := by
  omega

/- A class a window leaves out was over before it. -/
theorem over_of_old
    {lo t grace endDate : Int}
    (hGrace : 0 ≤ grace)
    (hOld : ¬(lo - grace - grace - day) / day ≤ endDate)
    (hFrom : lo ≤ t) :
    lastDayEnd endDate + grace ≤ t := by
  have hOver :
      (endDate + 1) * 86400000000 + grace ≤ t := by
    unfold day at hOld
    omega
  exact hOver

/- A booking that is there is counted, if by itself. -/
theorem optLoad_le_plainHeld
    (hLo : lo ≤ t₀)
    (hHi : t₁ ≤ hi)
    (hFrom : t₀ ≤ t)
    (hTo : t < t₁)
    (r : Resource)
    {id : Nat}
    {evt : ScheduledEvent}
    (hHolding : evt.state.holding = true)
    (hSkip : some id ≠ exclude)
    {absorbed : List Nat}
    (hAbsorbed : id ∉ absorbed) :
    optLoad t r
        (some
          { start := evt.startTime - site.cfg.lead
            stop := evt.endTime + site.cfg.grace
            size := evt.size
            uses := [] }) ≤
      (plainHeld site.cfg running lo hi exclude absorbed
        (id, evt)).elim 0
          (fun h => (h.item r).loadOver t₀ t₁) := by
  unfold optLoad
  rw [Option.elim_some, Held.item_loadAt]
  by_cases hThere :
      evt.startTime - site.cfg.lead ≤ t ∧
        t < evt.endTime + site.cfg.grace
  · rw [if_pos hThere]
    rcases span_meets hThere.1 hThere.2 hLo hHi hFrom hTo with
      ⟨hStart, hStop, hBefore, hAfter⟩
    have hMeets :
        (evt.state.holding &&
          decide (evt.startTime < hi + site.cfg.lead) &&
          decide (evt.endTime > lo - site.cfg.grace) &&
          decide (some id ≠ exclude) &&
          !absorbed.contains id) = true := by
      simp [hHolding, hStart, hStop, hSkip, hAbsorbed]
    unfold plainHeld
    simp only
    rw [if_pos hMeets, Option.elim_some, Held.item_loadOver,
      if_pos]
    · unfold bookingHeld
      simp only
      rw [Resources.larger_get]
      exact Nat.le_max_left _ _
    · exact ⟨hBefore, hAfter⟩
  · rw [if_neg hThere]
    exact Nat.zero_le _

/- A recent hold that is there is counted as a hold. -/
theorem optLoad_le_hold
    (hLead : 0 ≤ site.cfg.lead)
    (hGrace : 0 ≤ site.cfg.grace)
    (hLo : lo ≤ t₀)
    (hHi : t₁ ≤ hi)
    (hFrom : t₀ ≤ t)
    (hTo : t < t₁)
    (r : Resource)
    {key : HoldKey}
    (hRecent : recent site (firstDay site lo) key = true)
    (hSkip : some key ≠ skipKey) :
    optLoad t r (standingHold site events key) ≤
      ((((hold? site running.live
          (members site (some (firstDay site lo)) events key)
            key).filter
          (fun h => h.start < hi + site.cfg.lead &&
            h.stop > lo - site.cfg.grace)).filter
          (fun h => some h.key ≠ skipKey)).map Hold.held).elim 0
            (fun h => (h.item r).loadOver t₀ t₁) := by
  unfold standingHold
  rw [members_since hRecent, hold?_live site running.live]
  cases hHold :
      hold? site (fun _ => []) (members site none events key)
        key with
  | none => exact Nat.zero_le _
  | some h =>
      have hKey := (hold?_key hHold).1
      unfold optLoad
      simp only [Option.map_some, Option.elim_some]
      rw [Held.item_loadAt]
      by_cases hThere : h.held.start ≤ t ∧ t < h.held.stop
      · rw [if_pos hThere]
        rcases hold_meets hLead hGrace hThere.1 hThere.2 hLo hHi
          hFrom hTo with ⟨hStart, hStop, hBefore, hAfter⟩
        have hMeets :
            (decide (h.start < hi + site.cfg.lead) &&
              decide (h.stop > lo - site.cfg.grace)) = true := by
          rw [Bool.and_eq_true, decide_eq_true_eq,
            decide_eq_true_eq]
          exact ⟨hStart, hStop⟩
        rw [Option.filter_some, if_pos hMeets,
          Option.filter_some, if_pos (by simpa [hKey] using hSkip)]
        simp only [Option.map_some, Option.elim_some]
        rw [Held.item_loadOver, if_pos]
        · exact Nat.le_refl _
        · exact ⟨hBefore, hAfter⟩
      · rw [if_neg hThere]
        exact Nat.zero_le _

/-
  A hold that is there and that the window leaves out: one of
  its sessions is there, for its class is over.
-/
theorem stray_of_hold
    (hBooked : Booked site events)
    (hGrace : 0 ≤ site.cfg.grace)
    (hFrom : lo ≤ t)
    (r : Resource)
    {key : HoldKey}
    (hOld : recent site (firstDay site lo) key = false)
    (hSkip : some key ≠ skipKey) :
    optLoad t r (standingHold site events key) = 0 ∨
      ∃ entry ∈ events.entries,
        rowKey site none entry.2 = some key ∧
          optLoad t r (standingHold site events key) ≤
            strayLoad site (firstDay site lo) skipKey t r
              entry := by
  cases hHold : standingHold site events key with
  | none => exact .inl rfl
  | some h =>
      unfold optLoad
      rw [Option.elim_some, Held.item_loadAt]
      by_cases hThere : h.start ≤ t ∧ t < h.stop
      · rw [if_pos hThere]
        rcases standingHold_size hHold with ⟨hSize, cls, hClass⟩
        have hOver : lastDayEnd cls.endDate + site.cfg.grace ≤
            t := by
          unfold recent at hOld
          rw [hClass] at hOld
          exact over_of_old hGrace (of_decide_eq_false hOld) hFrom
        rcases (standingHold_stop hClass hHold t).mp
            hThere.2 with hEarly | ⟨id, evt, hGet, hRow, hStop⟩
        · exact absurd hEarly (not_lt.mpr hOver)
        · right
          refine ⟨(id, evt), Dict.get?_eq_some_iff.mp hGet,
            hRow, ?_⟩
          have hStart :=
            hBooked.early id evt key cls hGet hRow hClass
          have hSame :=
            hBooked.sized id evt key h.size hGet
              (rowKey_some hRow).1 hSize
          unfold strayLoad
          simp only [hRow, hOld, Bool.not_false, Bool.true_and,
            decide_eq_true_eq]
          rw [if_pos hSkip]
          unfold optLoad
          rw [Option.elim_some, Held.item_loadAt,
            if_pos ⟨hStart.trans hOver, hStop⟩, hSame]
      · rw [if_neg hThere]
        exact .inl rfl

/-
  What a window counts, without a booking and its hold, is
  never less than what stands beside them at any instant.
-/
theorem standing_le_held
    (hBooked : Booked site events)
    (hLead : 0 ≤ site.cfg.lead)
    (hGrace : 0 ≤ site.cfg.grace)
    (hLo : lo ≤ t₀)
    (hHi : t₁ ≤ hi)
    (hFrom : t₀ ≤ t)
    (hTo : t < t₁)
    (r : Resource)
    (exclude : Option Nat) :
    Loads.loadAt t
        ((standing site events exclude
          ((exclude.bind events.get?).bind
            (holdKey site))).map (Held.item r)) ≤
      Loads.loadOver t₀ t₁
        ((held site running events lo hi exclude).1.map
          (Held.item r)) := by
  unfold standing held
  simp only [List.map_append, Loads.loadAt_append,
    Loads.loadOver_append]
  generalize hSkip :
    (exclude.bind events.get?).bind (holdKey site) = skipKey
  rw [loadAt_filterMap, loadAt_filterMap, loadOver_filterMap]
  -- the holds, the recent ones and the others
  rw [Loads.sum_filter_add (recent site (firstDay site lo))
    _ ((groupKeys site none events).filter _)]
  have hRecent :
      (((((groupKeys site none events).filter
          (fun key => some key ≠ skipKey)).filter
            (recent site (firstDay site lo))).map
              (fun key => optLoad t r
                (standingHold site events key))).sum ≤
        Loads.loadOver t₀ t₁
          ((((holds site running.live events
            (lo - site.cfg.grace) (hi + site.cfg.lead)).filter
              (fun h => some h.key ≠ skipKey)).map
                Hold.held).map (Held.item r))) := by
    have hSame :
        (((holds site running.live events
          (lo - site.cfg.grace) (hi + site.cfg.lead)).filter
            (fun h => some h.key ≠ skipKey)).map Hold.held) =
          ((groupKeys site none events).filter
            (recent site (firstDay site lo))).filterMap
              (fun key =>
                (((hold? site running.live
                  (members site (some (firstDay site lo)) events
                    key) key).filter
                  (fun h => h.start < hi + site.cfg.lead &&
                    h.stop > lo - site.cfg.grace)).filter
                  (fun h => some h.key ≠ skipKey)).map
                    Hold.held) := by
      unfold holds
      rw [List.filter_filterMap, List.map_filterMap,
        ← groupKeys_since]
      rfl
    rw [hSame, loadOver_filterMap, List.filter_filter]
    rw [show (fun key => recent site (firstDay site lo) key &&
        decide (some key ≠ skipKey)) =
      (fun key => decide (some key ≠ skipKey) &&
        recent site (firstDay site lo) key) from by
      funext key
      exact Bool.and_comm _ _, ← List.filter_filter]
    apply Loads.sum_filter_le
    intro key hMem hNe
    apply optLoad_le_hold hLead hGrace hLo hHi hFrom hTo
    · exact (List.mem_filter.mp hMem).2
    · exact of_decide_eq_true hNe
  have hOld :
      (((((groupKeys site none events).filter
          (fun key => some key ≠ skipKey)).filter
            (fun key => !recent site (firstDay site lo) key)).map
              (fun key => optLoad t r
                (standingHold site events key))).sum ≤
        (events.entries.map
          (strayLoad site (firstDay site lo) skipKey t r)).sum) := by
    apply @Loads.sum_le_sum_of_keyed _ _
      (fun entry => rowKey site none entry.2)
    · exact ((Dict.nodup_fromkeys _).filter _).filter _
    · intro key hMem
      rcases List.mem_filter.mp hMem with ⟨hMem, hNot⟩
      rcases List.mem_filter.mp hMem with ⟨_, hNe⟩
      exact stray_of_hold hBooked hGrace (hLo.trans hFrom) r
        (by simpa using hNot) (of_decide_eq_true hNe)
  have hPlain :
      (events.entries.map (fun entry =>
        optLoad t r (standingPlain site exclude entry))).sum +
        (events.entries.map
          (strayLoad site (firstDay site lo) skipKey t r)).sum ≤
      (events.entries.map (fun entry =>
        (plainHeld site.cfg running lo hi exclude
          ((holds site running.live events
            (lo - site.cfg.grace) (hi + site.cfg.lead)).flatMap
              Hold.events) entry).elim 0 (fun h =>
                (h.item r).loadOver t₀ t₁))).sum := by
    rw [← List.sum_map_add]
    apply List.sum_le_sum
    rintro ⟨id, evt⟩ hMem
    have hGet := Dict.get?_eq_some_iff.mpr hMem
    cases hRow : rowKey site none evt with
    | none =>
        unfold strayLoad standingPlain
        simp only [hRow, decide_true, Bool.and_true,
          Nat.add_zero]
        by_cases hThere :
            (evt.state.holding &&
              decide (some id ≠ exclude)) = true
        · rw [if_pos hThere]
          rw [Bool.and_eq_true, decide_eq_true_eq] at hThere
          apply optLoad_le_plainHeld hLo hHi hFrom hTo r
            hThere.1 hThere.2
          intro hAbsorbed
          rcases recent_of_absorbed hGet hAbsorbed with
            ⟨key, hKey, _⟩
          rw [hRow] at hKey
          cases hKey
        · rw [if_neg hThere]
          exact Nat.zero_le _
    | some key =>
        unfold strayLoad standingPlain
        simp only [hRow, reduceCtorEq, decide_false,
          Bool.and_false, Bool.false_and, Bool.false_eq_true,
          if_false]
        rw [show optLoad t r none = 0 from rfl, Nat.zero_add]
        by_cases hStray :
            (!recent site (firstDay site lo) key &&
              decide (some key ≠ skipKey)) = true
        · rw [if_pos hStray]
          rw [Bool.and_eq_true, Bool.not_eq_true',
            decide_eq_true_eq] at hStray
          apply optLoad_le_plainHeld hLo hHi hFrom hTo r
          · exact hBooked.holding id evt key hGet hRow
          · intro hExclude
            rw [← hExclude] at hSkip
            apply hStray.2
            rw [← hSkip]
            simp [hGet, (rowKey_some hRow).1]
          · intro hAbsorbed
            rcases recent_of_absorbed hGet hAbsorbed with
              ⟨key', hKey, hRecent⟩
            rw [hRow] at hKey
            cases hKey
            rw [hStray.1] at hRecent
            cases hRecent
        · rw [if_neg hStray]
          exact Nat.zero_le _
  omega

end

--------
-- Room
--------

theorem available_get
    (supply committed : Resources)
    (r : Resource) :
    (available supply committed).get r =
      supply.get r - committed.get r := by
  cases r with
  | vcpu => rfl
  | ram => rfl
  | disk => rfl

/- No reason is left: nothing is short. -/
theorem shortfalls_eq_nil
    {need free : Resources}
    {start stop : Instant}
    (hNone : shortfalls need free start stop = [])
    (r : Resource) :
    need.get r ≤ free.get r := by
  unfold shortfalls at hNone
  have hFilter := List.map_eq_nil_iff.mp hNone
  have hAll := List.filter_eq_nil_iff.mp hFilter r (by
    cases r <;> simp)
  simpa using hAll

/- The slices of a span leave no instant of it out. -/
theorem slices_cover
    {start stop t : Instant}
    (hStart : start ≤ t)
    (hStop : t < stop) :
    ∃ w ∈ slices start stop, w.1 ≤ t ∧ t < w.2 := by
  have hIndex (start stop t : Int)
      (hStart : start ≤ t)
      (hStop : t < stop) :
      ∃ i : Nat,
        i < ((stop - start + 900000000 - 1) /
          900000000).toNat ∧
          start + i * 900000000 ≤ t ∧
          t < start + i * 900000000 + 900000000 := by
    refine ⟨((t - start) / 900000000).toNat, ?_, ?_, ?_⟩
    · omega
    · omega
    · omega
  rcases hIndex start stop t hStart hStop with
    ⟨i, hi, hFrom, hTo⟩
  refine ⟨_, List.mem_map.mpr
    ⟨i, List.mem_range.mpr hi, rfl⟩, hFrom, ?_⟩
  exact lt_min hTo hStop

theorem mostCommitted_get
    {rows : List Committed}
    {c : Committed}
    (hMem : c ∈ rows)
    (r : Resource) :
    c.resources.get r ≤ (mostCommitted rows).resources.get r := by
  cases r with
  | vcpu => exact Loads.le_peak (List.mem_map.mpr ⟨c, hMem, rfl⟩)
  | ram => exact Loads.le_peak (List.mem_map.mpr ⟨c, hMem, rfl⟩)
  | disk => exact Loads.le_peak (List.mem_map.mpr ⟨c, hMem, rfl⟩)

theorem foldr_min_le
    {a x : Instant}
    {xs : List Instant}
    (hMem : x = a ∨ x ∈ xs) :
    xs.foldr min a ≤ x := by
  induction xs with
  | nil =>
      rcases hMem with rfl | hMem
      · exact le_refl _
      · cases hMem
  | cons y xs ih =>
      rw [List.foldr_cons]
      rcases hMem with hSame | hMem
      · exact (min_le_right _ _).trans (ih (.inl hSame))
      · rcases List.mem_cons.mp hMem with rfl | hMem
        · exact min_le_left _ _
        · exact (min_le_right _ _).trans (ih (.inr hMem))

theorem le_foldr_max
    {a x : Instant}
    {xs : List Instant}
    (hMem : x = a ∨ x ∈ xs) :
    x ≤ xs.foldr max a := by
  induction xs with
  | nil =>
      rcases hMem with rfl | hMem
      · exact le_refl _
      · cases hMem
  | cons y xs ih =>
      rw [List.foldr_cons]
      rcases hMem with hSame | hMem
      · exact (ih (.inl hSame)).trans (le_max_right _ _)
      · rcases List.mem_cons.mp hMem with rfl | hMem
        · exact le_max_left _ _
        · exact (ih (.inr hMem)).trans (le_max_right _ _)

section

variable {site : Site}
variable {supply : Resources}
variable {running : Running}
variable {events : Dict Nat ScheduledEvent}

/- What stands at an instant of a window is committed in it. -/
theorem standing_le_committed
    (hBooked : Booked site events)
    (hLead : 0 ≤ site.cfg.lead)
    (hGrace : 0 ≤ site.cfg.grace)
    {lo hi t : Instant}
    (hFrom : lo ≤ t)
    (hTo : t < hi)
    (exclude : Option Nat)
    (r : Resource) :
    Loads.loadAt t
        ((standing site events exclude
          ((exclude.bind events.get?).bind
            (holdKey site))).map (Held.item r)) ≤
      (committed site running events lo hi
        exclude).resources.get r :=
  (standing_le_held hBooked hLead hGrace (le_refl lo)
    (le_refl hi) hFrom hTo r exclude).trans
      (loadOver_le_sumHeld _ _ _ _ _ _)

/- And so it is of the peak over the slices of a span. -/
theorem standing_le_peak
    (hBooked : Booked site events)
    (hLead : 0 ≤ site.cfg.lead)
    (hGrace : 0 ≤ site.cfg.grace)
    {lo hi t : Instant}
    (hFrom : lo ≤ t)
    (hTo : t < hi)
    (exclude : Option Nat)
    (r : Resource) :
    Loads.loadAt t
        ((standing site events exclude
          ((exclude.bind events.get?).bind
            (holdKey site))).map (Held.item r)) ≤
      (peakCommitted site running events lo hi
        exclude).resources.get r := by
  rcases slices_cover hFrom hTo with
    ⟨w, hMem, hStart, hStop⟩
  unfold peakCommitted committedMany
  cases hSlices : slices lo hi with
  | nil =>
      rw [hSlices] at hMem
      cases hMem
  | cons first rest =>
      rw [hSlices] at hMem
      rcases first with ⟨a, z⟩
      have hEnds : (w.1 = a ∨ w.1 ∈ rest.map Prod.fst) ∧
          (w.2 = z ∨ w.2 ∈ rest.map Prod.snd) := by
        rcases List.mem_cons.mp hMem with rfl | hRest
        · exact ⟨.inl rfl, .inl rfl⟩
        · exact ⟨.inr (List.mem_map.mpr ⟨w, hRest, rfl⟩),
            .inr (List.mem_map.mpr ⟨w, hRest, rfl⟩)⟩
      refine le_trans ?_
        (mostCommitted_get (List.mem_map.mpr ⟨w, hMem, rfl⟩) r)
      exact (standing_le_held hBooked hLead hGrace
        (foldr_min_le hEnds.1) (le_foldr_max hEnds.2) hStart
          hStop r exclude).trans (loadOver_le_sumHeld _ _ _ _ _ _)

/-
  There is room for `need` beside what stands, but for a
  booking and its hold, from `a` until before `z`.
-/
def Room
    (site : Site)
    (supply : Resources)
    (events : Dict Nat ScheduledEvent)
    (skipId : Option Nat)
    (skipKey : Option HoldKey)
    (need : Resources)
    (a z : Instant) : Prop :=
  ∀ t r, a ≤ t → t < z →
    need.get r = 0 ∨
      need.get r +
        Loads.loadAt t
          ((standing site events skipId skipKey).map
            (Held.item r)) ≤
        supply.get r

/- A booking that fits has room at every instant it holds. -/
theorem assess_room
    (hBooked : Booked site events)
    (hLead : 0 ≤ site.cfg.lead)
    (hGrace : 0 ≤ site.cfg.grace)
    {start stop : Instant}
    {need : Resources}
    {exclude : Option Nat}
    {peak : Bool}
    (hFits :
      (assess site supply running events start stop need exclude
        peak).fits = true) :
    Room site supply events exclude
      ((exclude.bind events.get?).bind (holdKey site)) need
      (start - site.cfg.lead) (stop + site.cfg.grace) := by
  intro t r hFrom hTo
  have hNone := of_decide_eq_true hFits
  have hNeed := shortfalls_eq_nil hNone r
  rw [available_get] at hNeed
  have hStands :
      Loads.loadAt t
          ((standing site events exclude
            ((exclude.bind events.get?).bind
              (holdKey site))).map (Held.item r)) ≤
        (assess site supply running events start stop need
          exclude peak).committed.resources.get r := by
    unfold assess
    cases peak with
    | true =>
        exact standing_le_peak hBooked hLead hGrace hFrom hTo
          exclude r
    | false =>
        exact standing_le_committed hBooked hLead hGrace hFrom
          hTo exclude r
  have hSame :
      (assess site supply running events start stop need
        exclude peak).supply.get r = supply.get r := rfl
  by_cases hZero : need.get r = 0
  · exact .inl hZero
  · right
    unfold assess at hStands hSame
    simp only at hStands hSame
    omega

end

end Scheduler

end TrueNorth
