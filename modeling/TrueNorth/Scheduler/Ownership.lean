import TrueNorth.Lib.Custody
import TrueNorth.Scheduler.Conflicts

/-
  Who owns a range the clock built, and what a build and the
  end of a booking make of it.

  Ownership is a flag on bookings: it is set where a build is
  sent, and handed to an heir or cleared where the booking
  ends.

  Key definitions include:
    * `World.Owned`
    * `World.Standing`
    * `World.Still`

  Main theorems:
    * `World.owned_iff_custody`
    * `World.Owned.provisionForBooking_iff`
    * `World.Owned.releaseRange`
-/

--------
-- Owners
--------

namespace TrueNorth

namespace Scheduler

open RangeOps (RangeState)

/- What a booking owns, by its flag. -/
def ScheduledEvent.flag
    (evt : ScheduledEvent) : Option (Option Nat) :=
  if evt.autoProvisioned then some evt.rangeId else none

namespace World

variable {w w' : World}

def flag
    (w : World)
    (id : Nat) : Option (Option Nat) :=
  (w.events.get? id).bind ScheduledEvent.flag

/- What the clock built and no booking has torn down. -/
def Stands
    (w : World)
    (range : Option Nat) : Prop :=
  ∃ rangeId ∈ w.built, range = some rangeId

/-
  The flag is set only on a booking of a range the clock
  built, on one booking of it at most and on one at least,
  and bookings tear down only ranges the clock built that no
  other booking holds.
-/
structure Owned (w : World) : Prop where
  flagged : ∀ id evt,
    w.events.get? id = some evt →
      evt.autoProvisioned = true →
      ∃ rangeId ∈ w.built, evt.rangeId = some rangeId
  single : ∀ i j e f rangeId,
    w.events.get? i = some e → w.events.get? j = some f →
      e.autoProvisioned = true → f.autoProvisioned = true →
      e.rangeId = some rangeId → f.rangeId = some rangeId →
      i = j
  owned : ∀ rangeId ∈ w.built,
    ∃ id evt, w.events.get? id = some evt ∧
      evt.autoProvisioned = true ∧
        evt.rangeId = some rangeId
  unshared : ∀ t ∈ w.teardowns, t.shared = false
  clockBuilt : ∀ t ∈ w.teardowns, t.clockBuilt = true

theorem flag_eq_some_iff
    {id : Nat}
    {range : Option Nat} :
    w.flag id = some range ↔
      ∃ evt, w.events.get? id = some evt ∧
        evt.autoProvisioned = true ∧ evt.rangeId = range := by
  unfold flag
  rw [Option.bind_eq_some_iff]
  apply exists_congr
  intro evt
  apply and_congr_right
  intro _
  unfold ScheduledEvent.flag
  by_cases hFlag : evt.autoProvisioned = true
  · simp [hFlag]
  · simp [hFlag]

theorem flag_of_get
    {id : Nat}
    {evt : ScheduledEvent}
    (hGet : w.events.get? id = some evt) :
    w.flag id = evt.flag := by
  unfold flag
  rw [hGet, Option.bind_some]

theorem flag_set
    {id : Nat}
    {evt : ScheduledEvent}
    (hEvents : w'.events = w.events.set id evt)
    (k : Nat) :
    w'.flag k = if k = id then evt.flag else w.flag k := by
  unfold flag
  rw [hEvents, Dict.get?_set]
  by_cases hk : k = id
  · rw [if_pos hk, if_pos hk, Option.bind_some]
  · rw [if_neg hk, if_neg hk]

/- The owners are a custody of the ranges that stand. -/
theorem owned_iff_custody :
    Owned w ↔
      Custody w.flag w.Stands ∧
        ∀ t ∈ w.teardowns,
          t.shared = false ∧ t.clockBuilt = true := by
  constructor
  · intro hOwned
    refine ⟨⟨?_, ?_, ?_⟩, ?_⟩
    · intro id range hFlag
      rcases flag_eq_some_iff.mp hFlag with
        ⟨evt, hGet, hAuto, rfl⟩
      exact hOwned.flagged id evt hGet hAuto
    · intro i j range hi hj
      rcases flag_eq_some_iff.mp hi with ⟨e, hGet, hAuto, hRange⟩
      rcases flag_eq_some_iff.mp hj with
        ⟨f, hGet', hAuto', hRange'⟩
      rcases hOwned.flagged i e hGet hAuto with
        ⟨rangeId, _, hSome⟩
      exact hOwned.single i j e f rangeId hGet hGet' hAuto
        hAuto' hSome (hRange'.trans (hRange.symm.trans hSome))
    · rintro range ⟨rangeId, hBuilt, rfl⟩
      rcases hOwned.owned rangeId hBuilt with ⟨id, evt, hOwner⟩
      exact ⟨id, flag_eq_some_iff.mpr ⟨evt, hOwner⟩⟩
    · intro t hMem
      exact ⟨hOwned.unshared t hMem, hOwned.clockBuilt t hMem⟩
  · rintro ⟨hCustody, hDown⟩
    constructor
    · intro id evt hGet hAuto
      exact hCustody.kept id evt.rangeId
        (flag_eq_some_iff.mpr ⟨evt, hGet, hAuto, rfl⟩)
    · intro i j e f rangeId hGet hGet' hAuto hAuto' hRange hRange'
      exact hCustody.single i j (some rangeId)
        (flag_eq_some_iff.mpr ⟨e, hGet, hAuto, hRange⟩)
        (flag_eq_some_iff.mpr ⟨f, hGet', hAuto', hRange'⟩)
    · intro rangeId hBuilt
      rcases hCustody.owned (some rangeId)
          ⟨rangeId, hBuilt, rfl⟩ with ⟨id, hFlag⟩
      exact ⟨id, flag_eq_some_iff.mp hFlag⟩
    · exact fun t hMem => (hDown t hMem).1
    · exact fun t hMem => (hDown t hMem).2

/- What the clock built exists, and is not being torn down. -/
def Standing (w : World) : Prop :=
  ∀ rangeId ∈ w.built,
    ∃ rng, w.ranges.get? rangeId = some rng ∧
      rng.state ≠ .destroying ∧ rng.state ≠ .destroyed

/- Owners, built ranges and teardowns are as they were. -/
structure Still (w w' : World) : Prop where
  flag : ∀ id, w'.flag id = w.flag id
  built : w'.built = w.built
  teardowns : w'.teardowns = w.teardowns

theorem Still.refl (w : World) : Still w w :=
  ⟨fun _ => rfl, rfl, rfl⟩

theorem Still.owned_iff
    (hStill : Still w w') :
    Owned w' ↔ Owned w := by
  have hStands : ∀ range, w'.Stands range ↔ w.Stands range := by
    intro range
    unfold Stands
    rw [hStill.built]
  rw [owned_iff_custody, owned_iff_custody, hStill.teardowns,
    Custody.congr hStill.flag hStands]

/- A booking of the same flag and range is written back. -/
theorem Still.set
    {id : Nat}
    {evt evt' : ScheduledEvent}
    (hGet : w.events.get? id = some evt)
    (hSame : SameOwner evt evt') :
    Still w (w.setEvent id evt') where
  flag k := by
    rw [flag_set rfl]
    by_cases hk : k = id
    · rw [if_pos hk, hk, flag_of_get hGet]
      unfold ScheduledEvent.flag
      rw [hSame.rangeId, hSame.autoProvisioned]
    · rw [if_neg hk]
  built := rfl
  teardowns := rfl

/- A booking that owns nothing, as before. -/
theorem Still.set_idle
    {id : Nat}
    {evt' : ScheduledEvent}
    (hNone : w.flag id = none)
    (hIdle : evt'.autoProvisioned = false)
    (hEvents : w'.events = w.events.set id evt')
    (hBuilt : w'.built = w.built)
    (hTeardowns : w'.teardowns = w.teardowns) :
    Still w w' where
  flag k := by
    rw [flag_set hEvents]
    by_cases hk : k = id
    · rw [if_pos hk, hk, hNone]
      unfold ScheduledEvent.flag
      rw [hIdle]
      rfl
    · rw [if_neg hk]
  built := hBuilt
  teardowns := hTeardowns

--------
-- Builds and Releases
--------

variable {w w' : World}

/- Whether a build of a range is sent. -/
def sends
    (w : World)
    (rangeId : Nat)
    (accepted : Bool) : Bool :=
  match w.ranges.get? rangeId with
  | none => false
  | some rng => buildable rng.state && !rng.lab && accepted

theorem provisionForBooking_cases
    (w : World)
    (id rangeId : Nat)
    {evt : ScheduledEvent}
    (hGet : w.events.get? id = some evt)
    (accepted : Bool) :
    (w.sends rangeId accepted = false ∧
        (w.provisionForBooking id rangeId accepted).1 = w) ∨
      ∃ rng,
        w.sends rangeId accepted = true ∧
        w.ranges.get? rangeId = some rng ∧
        (w.provisionForBooking id rangeId accepted).1 =
          { w with
            ranges :=
              w.ranges.set rangeId
                { rng with state := .provisioning }
            events :=
              w.events.set id
                { evt with autoProvisioned := true }
            built := rangeId :: w.built } := by
  unfold sends provisionForBooking
  cases hRange : w.ranges.get? rangeId with
  | none => exact .inl ⟨rfl, rfl⟩
  | some rng =>
      rw [hGet]
      dsimp only
      by_cases hSent :
          (buildable rng.state && !rng.lab && accepted) = true
      · rw [if_pos hSent]
        exact .inr ⟨rng, hSent, rfl, rfl⟩
      · rw [if_neg hSent]
        exact .inl ⟨Bool.eq_false_iff.mpr hSent, rfl⟩

theorem disown_eq
    {id : Nat}
    {evt : ScheduledEvent}
    (hGet : w.events.get? id = some evt) :
    w.disown id =
      w.setEvent id { evt with autoProvisioned := false } := by
  unfold disown
  rw [hGet]

/- What becomes of an ending booking's range. -/
theorem releaseRange_cases
    (w : World)
    (id : Nat)
    (accepted : Bool) :
    w.releaseRange id accepted = w ∨
      ∃ evt rangeId,
        w.events.get? id = some evt ∧
        evt.autoProvisioned = true ∧
        evt.rangeId = some rangeId ∧
        ((∃ heirId heir,
            w.events.get? heirId = some heir ∧
            heir.rangeId = some rangeId ∧ heirId ≠ id ∧
            w.releaseRange id accepted =
              (w.setEvent heirId
                { heir with autoProvisioned := true }).setEvent
                  id { evt with autoProvisioned := false }) ∨
          ((∀ rng, w.ranges.get? rangeId = some rng →
              rng.state = .destroying ∨
                rng.state = .destroyed) ∧
            w.releaseRange id accepted =
              w.setEvent id
                { evt with autoProvisioned := false }) ∨
          ∃ rng,
            w.ranges.get? rangeId = some rng ∧
            w.releaseRange id accepted =
              { w with
                ranges :=
                  w.ranges.set rangeId
                    { rng with state := .destroying }
                events :=
                  w.events.set id
                    { evt with autoProvisioned := false }
                built := w.built.filter (· ≠ rangeId)
                teardowns :=
                  w.teardowns ++
                    [{ rangeId := rangeId
                       eventId := id
                       clockBuilt := w.built.contains rangeId
                       shared := false }] }) := by
  unfold releaseRange
  cases hGet : w.events.get? id with
  | none => exact .inl rfl
  | some evt =>
      dsimp only
      cases hAuto : evt.autoProvisioned with
      | false => exact .inl rfl
      | true =>
          cases hRange : evt.rangeId with
          | none => exact .inl rfl
          | some rangeId =>
              dsimp only
              cases hHeir : (w.holders rangeId id).head? with
              | some heir =>
                  rcases heir with ⟨heirId, heir⟩
                  have hMem := List.mem_of_mem_head? hHeir
                  rcases mem_holders.mp hMem with
                    ⟨hGetHeir, _, hRangeHeir, hNe⟩
                  refine .inr ⟨evt, rangeId, rfl, hAuto, hRange,
                    .inl ⟨heirId, heir, hGetHeir, hRangeHeir,
                      hNe, ?_⟩⟩
                  apply disown_eq
                  unfold setEvent
                  rw [Dict.get?_set_ne hNe.symm, hGet]
              | none =>
                  have hAlone : w.holders rangeId id = [] :=
                    List.head?_eq_none_iff.mp hHeir
                  unfold destroyForBooking
                  cases hRng : w.ranges.get? rangeId with
                  | none =>
                      refine .inr ⟨evt, rangeId, rfl, hAuto,
                        hRange, .inr (.inl ⟨?_, ?_⟩)⟩
                      · intro rng hSome
                        rw [hRng] at hSome
                        cases hSome
                      · exact disown_eq hGet
                  | some rng =>
                      dsimp only
                      by_cases hGone :
                          (rng.state = .destroying ||
                            rng.state = .destroyed) = true
                      · rw [if_pos hGone]
                        refine .inr ⟨evt, rangeId, rfl, hAuto,
                          hRange, .inr (.inl ⟨?_, ?_⟩)⟩
                        · intro rng' hSome
                          rw [hRng] at hSome
                          cases hSome
                          simpa using hGone
                        · exact disown_eq hGet
                      · rw [if_neg hGone]
                        by_cases hNot :
                            (rng.lab || !accepted) = true
                        · rw [if_pos hNot]
                          exact .inl rfl
                        · rw [if_neg hNot]
                          refine .inr ⟨evt, rangeId, rfl, hAuto,
                            hRange, .inr (.inr ⟨rng, hRng, ?_⟩)⟩
                          rw [hAlone]
                          exact disown_eq hGet

--------
-- Owners Across Builds and Releases
--------

variable {w w' : World}

/- A build keeps the owners right unless another owns it. -/
theorem Owned.provisionForBooking_iff
    (hOwned : Owned w)
    {id rangeId : Nat}
    {evt : ScheduledEvent}
    (hGet : w.events.get? id = some evt)
    (hRange : evt.rangeId = some rangeId)
    (accepted : Bool) :
    Owned (w.provisionForBooking id rangeId accepted).1 ↔
      (w.sends rangeId accepted = true →
        ∀ k, w.flag k = some (some rangeId) → k = id) := by
  rcases provisionForBooking_cases w id rangeId hGet accepted
    with ⟨hNot, hSame⟩ | ⟨rng, hSent, _, hBuilt⟩
  · rw [hSame, hNot]
    exact ⟨fun _ => nofun, fun _ => hOwned⟩
  · rw [hBuilt, hSent]
    rcases owned_iff_custody.mp hOwned with ⟨hCustody, hDown⟩
    rw [owned_iff_custody, and_iff_left hDown]
    have hFrom : w.flag id = none ∨
        w.flag id = some (some rangeId) := by
      rw [flag_of_get hGet]
      unfold ScheduledEvent.flag
      by_cases hAuto : evt.autoProvisioned = true
      · rw [if_pos hAuto, hRange]
        exact .inr rfl
      · rw [if_neg hAuto]
        exact .inl rfl
    rw [Custody.take_iff hCustody hFrom]
    · exact ⟨fun hFree _ => hFree, fun hFree => hFree rfl⟩
    · intro k
      rw [flag_set rfl]
      by_cases hk : k = id
      · rw [if_pos hk, if_pos hk]
        unfold ScheduledEvent.flag
        rw [if_pos rfl, hRange]
      · rw [if_neg hk, if_neg hk]
    · intro range
      unfold Stands
      simp only [List.mem_cons]
      constructor
      · rintro ⟨rangeId', rfl | hMem, rfl⟩
        · exact .inl rfl
        · exact .inr ⟨rangeId', hMem, rfl⟩
      · rintro (rfl | ⟨rangeId', hMem, rfl⟩)
        · exact ⟨rangeId, .inl rfl, rfl⟩
        · exact ⟨rangeId', .inr hMem, rfl⟩

/- A booking that ends leaves the owners right. -/
theorem Owned.releaseRange
    (hStanding : Standing w)
    (hOwned : Owned w)
    (id : Nat)
    (accepted : Bool) :
    Owned (w.releaseRange id accepted) := by
  rcases releaseRange_cases w id accepted with hSame | hEnds
  · rw [hSame]
    exact hOwned
  · rcases hEnds with ⟨evt, rangeId, hGet, hAuto, hRange, hEnds⟩
    rcases owned_iff_custody.mp hOwned with ⟨hCustody, hDown⟩
    have hFrom : w.flag id = some (some rangeId) :=
      flag_eq_some_iff.mpr ⟨evt, hGet, hAuto, hRange⟩
    have hBuilt : rangeId ∈ w.built := by
      rcases hCustody.kept id _ hFrom with ⟨R, hMem, hSame⟩
      cases hSame
      exact hMem
    rcases hEnds with hHeir | hGone | hDestroyed
    · rcases hHeir with
        ⟨heirId, heir, hGetHeir, hRangeHeir, hNe, hAfter⟩
      rw [hAfter, owned_iff_custody]
      refine ⟨hCustody.handOver (j := heirId) hFrom ?_ ?_ ?_,
        hDown⟩
      · -- an heir that owned it would be the owner itself
        by_contra hSome
        rw [flag_of_get hGetHeir] at hSome
        unfold ScheduledEvent.flag at hSome
        by_cases hAutoHeir : heir.autoProvisioned = true
        · apply hNe
          exact hOwned.single heirId id heir evt rangeId hGetHeir
            hGet hAutoHeir hAuto hRangeHeir hRange
        · exact hSome (if_neg hAutoHeir)
      · intro k
        rw [flag_set rfl, flag_set rfl]
        unfold ScheduledEvent.flag
        by_cases hk : k = id
        · rw [if_pos hk, if_pos hk]
          rfl
        · rw [if_neg hk, if_neg hk]
          by_cases hk' : k = heirId
          · rw [if_pos hk', if_pos hk', if_pos rfl, hRangeHeir]
          · rw [if_neg hk', if_neg hk']
      · exact fun _ => Iff.rfl
    · rcases hGone with ⟨hGone, _⟩
      rcases hStanding rangeId hBuilt with ⟨rng, hRng, hUp⟩
      rcases hGone rng hRng with hState | hState
      · exact absurd hState hUp.1
      · exact absurd hState hUp.2
    · rcases hDestroyed with ⟨rng, _, hAfter⟩
      rw [hAfter, owned_iff_custody]
      refine ⟨hCustody.release hFrom ?_ ?_, ?_⟩
      · intro k
        rw [flag_set rfl]
        by_cases hk : k = id
        · rw [if_pos hk, if_pos hk]
          rfl
        · rw [if_neg hk, if_neg hk]
      · intro range
        unfold Stands
        constructor
        · rintro ⟨rangeId', hMem, rfl⟩
          rw [List.mem_filter, decide_eq_true_eq] at hMem
          exact ⟨⟨rangeId', hMem.1, rfl⟩,
            fun hSame => hMem.2 (Option.some.inj hSame)⟩
        · rintro ⟨⟨rangeId', hMem, rfl⟩, hNe⟩
          refine ⟨rangeId', List.mem_filter.mpr ⟨hMem, ?_⟩, rfl⟩
          rw [decide_eq_true_eq]
          exact fun hSame => hNe (congrArg some hSame)
      · intro t hMem
        rcases List.mem_append.mp hMem with hOld | hNew
        · exact hDown t hOld
        · rw [List.mem_singleton] at hNew
          rw [hNew]
          exact ⟨rfl, List.contains_iff_mem.mpr hBuilt⟩

end World

end Scheduler

end TrueNorth

--------
-- What Is Built Stands
--------

namespace TrueNorth

namespace Scheduler

open RangeOps (RangeState)

namespace World

variable {cfg : Settings}
variable {w w' : World}

theorem Standing.same
    (hStanding : Standing w)
    (hRanges : w'.ranges = w.ranges)
    (hBuilt : w'.built = w.built) :
    Standing w' := by
  intro rangeId hMem
  rw [hRanges]
  rw [hBuilt] at hMem
  exact hStanding rangeId hMem

/- One range changes, to a state that is not going down. -/
theorem Standing.setRange
    (hStanding : Standing w)
    {rangeId : Nat}
    {rng : Range}
    (hRanges : w'.ranges = w.ranges.set rangeId rng)
    (hBuilt : ∀ R ∈ w'.built, R ∈ w.built ∨ R = rangeId)
    (hUp : rangeId ∈ w'.built →
      rng.state ≠ .destroying ∧ rng.state ≠ .destroyed) :
    Standing w' := by
  intro R hMem
  rw [hRanges]
  by_cases hR : R = rangeId
  · rw [hR, Dict.get?_set_self]
    exact ⟨rng, rfl, hUp (hR ▸ hMem)⟩
  · rw [Dict.get?_set_ne hR]
    rcases hBuilt R hMem with hOld | hSame
    · exact hStanding R hOld
    · exact absurd hSame hR

theorem Standing.provisionForBooking
    (hStanding : Standing w)
    (id rangeId : Nat)
    (accepted : Bool) :
    Standing (w.provisionForBooking id rangeId accepted).1 := by
  cases hGet : w.events.get? id with
  | none =>
      unfold World.provisionForBooking
      rw [hGet]
      cases w.ranges.get? rangeId with
      | none => exact hStanding
      | some rng => exact hStanding
  | some evt =>
      rcases provisionForBooking_cases w id rangeId hGet accepted
        with ⟨_, hSame⟩ | ⟨rng, _, _, hBuilt⟩
      · rw [hSame]
        exact hStanding
      · rw [hBuilt]
        apply hStanding.setRange rfl
        · intro R hMem
          rcases List.mem_cons.mp hMem with hSame | hOld
          · exact .inr hSame
          · exact .inl hOld
        · exact fun _ => ⟨nofun, nofun⟩

theorem Standing.releaseRange
    (hStanding : Standing w)
    (id : Nat)
    (accepted : Bool) :
    Standing (w.releaseRange id accepted) := by
  rcases releaseRange_cases w id accepted with hSame | hEnds
  · rw [hSame]
    exact hStanding
  · rcases hEnds with
      ⟨evt, rangeId, _, _, _, hHeir | hGone | hDestroyed⟩
    · rcases hHeir with ⟨heirId, heir, _, _, _, hAfter⟩
      rw [hAfter]
      exact hStanding.same rfl rfl
    · rw [hGone.2]
      exact hStanding.same rfl rfl
    · rcases hDestroyed with ⟨rng, _, hAfter⟩
      rw [hAfter]
      apply hStanding.setRange rfl
      · exact fun R hMem => .inl (List.mem_filter.mp hMem).1
      · intro hMem
        simp at hMem

theorem up_of_reportable
    {s s' : RangeState}
    (hMay : reportable s s' = true)
    (hUp : s ≠ .destroying) :
    s' ≠ .destroying ∧ s' ≠ .destroyed := by
  constructor
  · intro hState
    rw [hState] at hMay
    cases s <;> cases hMay
  · intro hState
    rw [hState] at hMay
    cases s <;> first | exact hUp rfl | cases hMay

/- A report does not begin to tear a range down. -/
theorem Standing.workerReports
    (hStanding : Standing w)
    (rangeId : Nat)
    (state : RangeState) :
    Standing (w.workerReports rangeId state) := by
  unfold World.workerReports
  cases hRng : w.ranges.get? rangeId with
  | none => exact hStanding
  | some rng =>
      dsimp only
      by_cases hMay : reportable rng.state state = true
      · rw [if_pos hMay]
        apply hStanding.setRange rfl
        · exact fun R hMem => .inl hMem
        · intro hMem
          rcases hStanding rangeId hMem with
            ⟨rng', hRng', hUp, hLeft⟩
          rw [hRng] at hRng'
          cases hRng'
          exact up_of_reportable hMay hUp
      · rw [if_neg hMay]
        exact hStanding

end World

end Scheduler

end TrueNorth
