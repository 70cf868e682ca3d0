import TrueNorth.RangeAlloc.World

/-
  What a reservation call answers: each holder one value,
  reserved for it, a value it had or the first of the pool
  that is free.

  Key definitions include:
    * `freeValues`, `newHolders`
    * `Serves`
    * `Worker.released`, `Api.released`

  Main theorems:
    * `allot_serves`
    * `Worker.reserveValues_serves`
    * `Api.reserve_serves`, `Api.sync_serves`
    * `World.run_exclusive`
-/

--------
-- What a Call Must Answer
--------

namespace TrueNorth

namespace RangeAlloc

/- The row reserves its value for a holder of the request. -/
def Row.reservesFor
    (request : Request)
    (r : Row) : Bool :=
  r.heldBy request.rangeId && r.isIn request.domain request.kind

/- No row that stays has the value. -/
def isFree
    (destroyed : List Nat)
    (t : Reservations)
    (domain kind : String)
    (v : String) : Bool :=
  t.rows.all (fun r =>
    !(r.isIn domain kind && r.value = v) || r.isGone destroyed)

/- The free values of the pool, in its order. -/
def freeValues
    (destroyed : List Nat)
    (t : Reservations)
    (request : Request)
    (excluded : List String) : List String :=
  request.pool.filter (fun v =>
    isFree destroyed t request.domain request.kind v &&
      v ∉ excluded)

/- The holders without a row, in the order asked. -/
def newHolders
    (t : Reservations)
    (request : Request) : List String :=
  (Dict.fromkeys request.holders).filter (fun h =>
    t.rows.all (fun r =>
      !(r.reservesFor request && r.holder = h)))

/-
  `got` serves the request on `t`, leaving `t'`.
-/
structure Serves
    (destroyed : List Nat)
    (request : Request)
    (excluded : List String)
    (t t' : Reservations)
    (got : Dict String String) : Prop where
  holders : ∀ h, h ∈ got.keys ↔ h ∈ request.holders
  allowed : ∀ h v, got.get? h = some v → v ∉ excluded
  reserved : request.rangeId ∉ destroyed →
    ∀ h v, got.get? h = some v →
      ∃ r ∈ t'.rows, r.reservesFor request = true ∧
        r.holder = h ∧ r.value = v
  kept : ∀ r ∈ t.rows, r.reservesFor request = true →
    r.holder ∈ request.holders →
      got.get? r.holder = some r.value
  assigned :
    (newHolders t request).map got.get? =
      ((freeValues destroyed t request excluded).take
        (newHolders t request).length).map some

--------
-- The Holders' Values
--------

/- `mine` is what the range holds, by holder. -/
def Holds
    (t : Reservations)
    (request : Request)
    (mine : Dict String String) : Prop :=
  ∀ h v,
    mine.get? h = some v ↔
      ∃ r ∈ t.rows, r.reservesFor request = true ∧
        r.holder = h ∧ r.value = v

/- A range has one row for a holder of a kind. -/
theorem nodup_holders
    (t : Reservations)
    (rangeId : Nat)
    (kind : String) :
    ((rangeReservations t rangeId kind).map
      Row.holder).Nodup := by
  unfold rangeReservations
  apply List.pairwise_map.mpr
  apply (t.exclusive.sublist List.filter_sublist).imp_of_mem
  intro r r' hr hr' hFree hSame
  have hOurs :=
    (List.mem_filter.mp hr).2
  have hTheirs :=
    (List.mem_filter.mp hr').2
  simp only [Row.heldBy, Bool.and_eq_true,
    decide_eq_true_eq] at hOurs hTheirs
  apply hFree
  refine .inr ⟨?_, ?_, ?_, hSame⟩
  · rw [hOurs.1]
    exact Option.some_ne_none _
  · rw [hOurs.1, hTheirs.1]
  · rw [hOurs.2, hTheirs.2]

/- The rows found hold what `mine` says. -/
theorem get?_heldValues
    {rows : List Row}
    (hNodup : (rows.map Row.holder).Nodup)
    {h v : String} :
    (Worker.heldValues rows).get? h = some v ↔
      ∃ r ∈ rows, r.holder = h ∧ r.value = v := by
  unfold Worker.heldValues
  rw [Dict.get?_ofPairs]
  · simp only [List.mem_map, Prod.mk.injEq]
  · rw [List.map_map]
    exact hNodup

theorem Holds.newHolders
    {t : Reservations}
    {request : Request}
    {mine : Dict String String}
    (hHolds : Holds t request mine) :
    newHolders t request = unheld request.holders mine := by
  unfold RangeAlloc.newHolders unheld
  apply List.filter_congr
  intro h _
  rw [Bool.eq_iff_iff]
  simp only [List.all_eq_true, Bool.not_eq_true',
    Bool.and_eq_false_iff, decide_eq_false_iff_not,
    decide_eq_true_eq]
  rw [Dict.mem_keys]
  constructor
  · rintro hNone ⟨v, hGet⟩
    rcases (hHolds h v).mp hGet with ⟨r, hr, hOurs, hh, _⟩
    rcases hNone r hr with hOther | hOther
    · rw [hOurs] at hOther
      cases hOther
    · exact hOther hh
  · intro hNone r hr
    by_cases hOurs : r.reservesFor request = true
    · right
      intro hh
      exact hNone
        ⟨r.value, (hHolds h _).mpr ⟨r, hr, hOurs, hh, rfl⟩⟩
    · left
      exact Bool.eq_false_iff.mpr hOurs

--------
-- Allotting
--------

/- The freed table's values are the ones not free. -/
theorem isFree_iff
    {destroyed : List Nat}
    {t : Reservations}
    {domain kind v : String} :
    isFree destroyed t domain kind v = true ↔
      v ∉ (takenReservationValues destroyed t domain kind).2 := by
  unfold isFree takenReservationValues
  simp only [List.all_eq_true, List.mem_map,
    List.mem_filter, Table.mem_delete]
  constructor
  · rintro hFree ⟨r, ⟨⟨hr, hStays⟩, hIn⟩, hv⟩
    have hGone := hFree r hr
    rw [hIn] at hGone hStays
    simp only [hv, decide_true, Bool.and_self, Bool.not_true,
      Bool.false_or, Bool.true_and] at hGone hStays
    rw [hStays] at hGone
    cases hGone
  · intro hFree r hr
    by_contra hHeld
    apply hFree
    simp only [Bool.or_eq_true, Bool.not_eq_true',
      Bool.and_eq_false_iff, decide_eq_false_iff_not,
      not_or, Bool.not_eq_false, not_not,
      Bool.not_eq_true] at hHeld
    rcases hHeld with ⟨⟨hIn, hv⟩, hStays⟩
    refine ⟨r, ⟨⟨hr, ?_⟩, hIn⟩, hv⟩
    rw [hStays, Bool.and_false]

/-
  What a successful allotment did, with `pairs` the holders
  that got a new value.
-/
structure Allots
    (destroyed : List Nat)
    (now : Int)
    (request : Request)
    (mine : Dict String String)
    (excluded : List String)
    (t t' : Reservations)
    (got : Dict String String)
    (pairs : List (String × String)) : Prop where
  pairs_eq :
    pairs =
      (unheld request.holders mine).zip
        (freeValues destroyed t request excluded)
  long :
    (unheld request.holders mine).length ≤
      (freeValues destroyed t request excluded).length
  got_iff : ∀ h v,
    got.get? h = some v ↔
      h ∈ request.holders ∧
        ((h, v) ∈ pairs ∨ mine.get? h = some v)
  rows_iff : ∀ r,
    r ∈ t'.rows ↔
      (r ∈ t.rows ∧
        (unheld request.holders mine ≠ [] →
          (r.isIn request.domain request.kind &&
            r.isGone destroyed) = false)) ∨
      ∃ h v, (h, v) ∈ pairs ∧
        r = rangeRow now request.rangeId request.domain
          request.kind h v

theorem nodup_unheld
    (holders : List String)
    (mine : Dict String String) :
    (unheld holders mine).Nodup :=
  (Dict.nodup_fromkeys holders).filter _

/- No more values are paired than there are holders. -/
theorem zip_take
    {holders values : List String}
    (hLong : holders.length ≤ values.length) :
    holders.zip (values.take holders.length) =
      holders.zip values := by
  conv_rhs =>
    rw [List.zip_eq_zip_take_min, Nat.min_eq_left hLong,
      List.take_length]

/- The pairs, as a dictionary. -/
theorem get?_pairs
    {holders values : List String}
    (hNodup : holders.Nodup)
    (hLong : holders.length ≤ values.length)
    {h v : String} :
    (Dict.ofPairs (holders.zip values)).get? h = some v ↔
      (h, v) ∈ holders.zip values := by
  apply Dict.get?_ofPairs
  rw [List.map_fst_zip hLong]
  exact hNodup

/- The new values are of holders that had none. -/
theorem get?_update_pairs
    {holders values : List String}
    {mine : Dict String String}
    (hLong : (unheld holders mine).length ≤ values.length)
    {h v : String} :
    (mine.update
        (Dict.ofPairs ((unheld holders mine).zip values))).get?
          h = some v ↔
      (h, v) ∈ (unheld holders mine).zip values ∨
        mine.get? h = some v := by
  have hPairs := fun v =>
    get?_pairs (nodup_unheld holders mine) hLong (h := h)
      (v := v)
  rw [Dict.get?_update, Option.or_eq_some_iff, hPairs]
  constructor
  · rintro (hNew | ⟨_, hOld⟩)
    · exact .inl hNew
    · exact .inr hOld
  · rintro (hNew | hOld)
    · exact .inl hNew
    · right
      refine ⟨Option.eq_none_iff_forall_ne_some.mpr ?_, hOld⟩
      intro v' hNew
      have hUnheld :=
        (List.of_mem_zip ((hPairs v').mp hNew)).1
      have hNot := (List.mem_filter.mp hUnheld).2
      rw [decide_eq_true_eq] at hNot
      exact hNot (Dict.mem_keys.mpr ⟨v, hOld⟩)

/- The rows inserted, one for each pair. -/
theorem mem_rangeRows
    {holders values : List String}
    {mine : Dict String String}
    (hLong : (unheld holders mine).length ≤ values.length)
    {row : String → String → Row}
    {r : Row} :
    (r ∈ (Dict.ofPairs
        ((unheld holders mine).zip values)).entries.map
          (fun entry => row entry.1 entry.2)) ↔
      ∃ h v, (h, v) ∈ (unheld holders mine).zip values ∧
        r = row h v := by
  rw [List.mem_map]
  constructor
  · rintro ⟨⟨h, v⟩, hEntry, rfl⟩
    rw [← Dict.get?_eq_some_iff,
      get?_pairs (nodup_unheld holders mine) hLong] at hEntry
    exact ⟨h, v, hEntry, rfl⟩
  · rintro ⟨h, v, hPair, rfl⟩
    refine ⟨(h, v), ?_, rfl⟩
    rw [← Dict.get?_eq_some_iff,
      get?_pairs (nodup_unheld holders mine) hLong]
    exact hPair

theorem allot_allots
    {destroyed : List Nat}
    {now : Int}
    {t t' : Reservations}
    {request : Request}
    {mine : Dict String String}
    {excluded : List String}
    {note : Reservations → String}
    {got : Dict String String}
    (hAllot :
      allot destroyed now t request mine excluded note =
        .ok (t', got)) :
    ∃ pairs,
      Allots destroyed now request mine excluded t t' got
        pairs := by
  have hFree :
      request.pool.filter (fun v =>
          v ∉ (takenReservationValues destroyed t
            request.domain request.kind).2 && v ∉ excluded) =
        freeValues destroyed t request excluded := by
    unfold freeValues
    apply List.filter_congr
    intro v _
    rw [Bool.eq_iff_iff]
    simp only [Bool.and_eq_true, isFree_iff,
      decide_eq_true_eq]
  unfold allot at hAllot
  simp only [hFree] at hAllot
  split at hAllot
  case isTrue hNone =>
    cases hAllot
    refine ⟨[], ⟨?_, ?_, ?_, ?_⟩⟩
    · simp [hNone]
    · simp [hNone]
    · intro h v
      simp [answer, Dict.get?_collect]
    · intro r
      simp [hNone]
  case isFalse hSome =>
    split at hAllot
    case isTrue => cases hAllot
    case isFalse hEnough =>
      split at hAllot
      case h_1 => cases hAllot
      case h_2 t'' hInsert =>
        cases hAllot
        have hLong := Nat.le_of_not_lt hEnough
        rw [List.length_take] at hLong
        refine ⟨_, ⟨rfl, by omega, ?_, ?_⟩⟩
        · intro h v
          rw [answer, Dict.get?_collect,
            zip_take (by omega),
            get?_update_pairs (by omega)]
        · intro r
          rw [Table.rows_insert? hInsert, List.mem_append,
            takenReservationValues, Table.mem_delete,
            zip_take (by omega), mem_rangeRows (by omega)]
          simp [hSome]

--------
-- An Allotment Serves
--------

/- Reading off the pairs gives the values in order. -/
theorem map_of_pairs
    {f : String → Option String}
    {holders values : List String}
    (hLong : holders.length ≤ values.length)
    (hPairs : ∀ h v, (h, v) ∈ holders.zip values →
      f h = some v) :
    holders.map f =
      (values.take holders.length).map some := by
  induction holders generalizing values with
  | nil => simp
  | cons h holders ih =>
      cases values with
      | nil => simp at hLong
      | cons v values =>
          have hFirst := hPairs h v (by simp)
          have hRest :=
            ih (by simpa using hLong) (fun h' v' hMem =>
              hPairs h' v' (by simp [hMem]))
          simp [hFirst, hRest]

theorem mem_freeValues
    {destroyed : List Nat}
    {t : Reservations}
    {request : Request}
    {excluded : List String}
    {v : String} :
    v ∈ freeValues destroyed t request excluded ↔
      v ∈ request.pool ∧
        isFree destroyed t request.domain request.kind v =
          true ∧
        v ∉ excluded := by
  unfold freeValues
  rw [List.mem_filter, Bool.and_eq_true, decide_eq_true_eq]

namespace Allots

variable {destroyed : List Nat}
variable {now : Int}
variable {request : Request}
variable {mine : Dict String String}
variable {excluded : List String}
variable {t t' : Reservations}
variable {got : Dict String String}
variable {pairs : List (String × String)}

theorem mem_of_pair
    (hAllots : Allots destroyed now request mine excluded t t'
      got pairs)
    {h v : String}
    (hPair : (h, v) ∈ pairs) :
    h ∈ request.holders ∧
      v ∈ freeValues destroyed t request excluded := by
  rw [hAllots.pairs_eq] at hPair
  have hMem := List.of_mem_zip hPair
  have hUnheld := (List.mem_filter.mp hMem.1).1
  exact ⟨Dict.mem_fromkeys.mp hUnheld, hMem.2⟩

/- Every holder has a value, old or new. -/
theorem mem_keys
    (hAllots : Allots destroyed now request mine excluded t t'
      got pairs)
    {h : String} :
    h ∈ got.keys ↔ h ∈ request.holders := by
  rw [Dict.mem_keys]
  constructor
  · rintro ⟨v, hGot⟩
    exact ((hAllots.got_iff h v).mp hGot).1
  · intro hHolder
    by_cases hMine : h ∈ mine.keys
    · rcases Dict.mem_keys.mp hMine with ⟨v, hOld⟩
      exact ⟨v, (hAllots.got_iff h v).mpr
        ⟨hHolder, .inr hOld⟩⟩
    · have hUnheld : h ∈ unheld request.holders mine := by
        unfold unheld
        rw [List.mem_filter]
        exact ⟨Dict.mem_fromkeys.mpr hHolder,
          decide_eq_true hMine⟩
      have hFirst : h ∈ pairs.map Prod.fst := by
        rw [hAllots.pairs_eq, List.map_fst_zip hAllots.long]
        exact hUnheld
      rcases List.mem_map.mp hFirst with ⟨⟨_, v⟩, hPair, rfl⟩
      exact ⟨v, (hAllots.got_iff _ v).mpr
        ⟨hHolder, .inl hPair⟩⟩

theorem serves
    (hAllots : Allots destroyed now request mine excluded t t'
      got pairs)
    (hHolds : Holds t request mine)
    (hAllowed : ∀ h v, mine.get? h = some v → v ∉ excluded) :
    Serves destroyed request excluded t t' got := by
  constructor
  case holders => exact fun _ => hAllots.mem_keys
  case allowed =>
    intro h v hGot
    rcases ((hAllots.got_iff h v).mp hGot).2 with
      hNew | hOld
    · exact (mem_freeValues.mp (hAllots.mem_of_pair hNew).2).2.2
    · exact hAllowed h v hOld
  case reserved =>
    intro hStays h v hGot
    rcases ((hAllots.got_iff h v).mp hGot).2 with
      hNew | hOld
    · refine ⟨_,
        (hAllots.rows_iff _).mpr (.inr ⟨h, v, hNew, rfl⟩),
        ?_, rfl, rfl⟩
      simp [Row.reservesFor, Row.heldBy, Row.isIn, rangeRow]
    · rcases (hHolds h v).mp hOld with ⟨r, hr, hOurs, hRow⟩
      refine ⟨r, ?_, hOurs, hRow⟩
      refine (hAllots.rows_iff r).mpr (.inl ⟨hr, ?_⟩)
      intro _
      have hHeld : r.rangeId = some request.rangeId := by
        simp only [Row.reservesFor, Row.heldBy,
          Bool.and_eq_true, decide_eq_true_eq] at hOurs
        exact hOurs.1
      simp [Row.isGone, hHeld, hStays]
  case kept =>
    intro r hr hOurs hHolder
    apply (hAllots.got_iff _ _).mpr
    exact ⟨hHolder,
      .inr ((hHolds _ _).mpr ⟨r, hr, hOurs, rfl, rfl⟩)⟩
  case assigned =>
    rw [hHolds.newHolders]
    apply map_of_pairs hAllots.long
    intro h v hPair
    rw [← hAllots.pairs_eq] at hPair
    exact (hAllots.got_iff h v).mpr
      ⟨(hAllots.mem_of_pair hPair).1, .inl hPair⟩

end Allots

end RangeAlloc

end TrueNorth

--------
-- The Worker's Answers
--------

namespace TrueNorth

namespace RangeAlloc

namespace Worker

/- A fresh build frees the holders it no longer has. -/
def released
    (t : Reservations)
    (request : Request)
    (prune : Bool) : Reservations :=
  t.delete (fun r =>
    prune && r.heldBy request.rangeId &&
      r.kind = request.kind && r.holder ∉ request.holders)

/- The range's row of the kind, and its holder in `mine`. -/
theorem mem_rangeReservations
    {t : Reservations}
    {rangeId : Nat}
    {kind : String}
    {r : Row} :
    r ∈ rangeReservations t rangeId kind ↔
      r ∈ t.rows ∧ r.heldBy rangeId = true ∧ r.kind = kind := by
  unfold rangeReservations
  rw [List.mem_filter, Bool.and_eq_true, decide_eq_true_eq]

theorem mem_keys_heldValues
    {t : Reservations}
    {rangeId : Nat}
    {kind h : String} :
    h ∈ (heldValues (rangeReservations t rangeId kind)).keys ↔
      ∃ r ∈ rangeReservations t rangeId kind, r.holder = h := by
  rw [Dict.mem_keys]
  constructor
  · rintro ⟨v, hGet⟩
    rcases (get?_heldValues (nodup_holders t rangeId
      kind)).mp hGet with ⟨r, hr, hh, _⟩
    exact ⟨r, hr, hh⟩
  · rintro ⟨r, hr, hh⟩
    exact ⟨r.value, (get?_heldValues (nodup_holders t rangeId
      kind)).mpr ⟨r, hr, hh, rfl⟩⟩

theorem pruned_table
    (t : Reservations)
    (request : Request)
    (prune : Bool) :
    (pruned t request prune (heldValues
      (rangeReservations t request.rangeId
        request.kind))).1 =
      released t request prune := by
  have hStale : ∀ r ∈ t.rows,
      r.heldBy request.rangeId = true →
      r.kind = request.kind →
      r.holder ∈ (heldValues (rangeReservations t
        request.rangeId request.kind)).keys := by
    intro r hr hOurs hKind
    apply mem_keys_heldValues.mpr
    exact ⟨r, mem_rangeReservations.mpr ⟨hr, hOurs, hKind⟩,
      rfl⟩
  unfold pruned released
  dsimp only
  split
  case isTrue hPrune =>
    rw [Bool.and_eq_true] at hPrune
    apply Table.ext
    apply List.filter_congr
    intro r hr
    congr 1
    rw [Bool.eq_iff_iff]
    simp only [hPrune.1, Bool.true_and, Bool.and_eq_true,
      decide_eq_true_eq, List.mem_filter]
    constructor
    · rintro ⟨hOurs, _, hGone⟩
      exact ⟨hOurs, hGone⟩
    · rintro ⟨hOurs, hGone⟩
      exact ⟨hOurs, hStale r hr hOurs.1 hOurs.2, hGone⟩
  case isFalse hKeep =>
    apply Table.ext
    symm
    apply List.filter_eq_self.mpr
    intro r hr
    rw [Bool.not_eq_true', Bool.eq_false_iff]
    intro hDrop
    apply hKeep
    simp only [Bool.and_eq_true, decide_eq_true_eq]
      at hDrop
    rcases hDrop with ⟨⟨⟨hPrune, hOurs⟩, hKind⟩, hGone⟩
    rw [hPrune, Bool.true_and, decide_eq_true_eq]
    apply List.ne_nil_of_mem (a := r.holder)
    rw [List.mem_filter, decide_eq_true_eq]
    exact ⟨hStale r hr hOurs hKind, hGone⟩

theorem pruned_get?
    (t : Reservations)
    (request : Request)
    (prune : Bool)
    (mine : Dict String String)
    {h v : String} :
    (pruned t request prune mine).2.get? h = some v ↔
      mine.get? h = some v ∧
        (prune = true → h ∈ request.holders) := by
  unfold pruned
  dsimp only
  split
  case isTrue hPrune =>
    rw [Bool.and_eq_true] at hPrune
    rw [Dict.get?_filter, decide_eq_true_eq]
    simp [hPrune.1]
  case isFalse hKeep =>
    refine (and_iff_left_of_imp ?_).symm
    intro hGet hPrune
    by_contra hGone
    apply hKeep
    rw [hPrune, Bool.true_and, decide_eq_true_eq]
    apply List.ne_nil_of_mem (a := h)
    rw [List.mem_filter, decide_eq_true_eq]
    exact ⟨Dict.mem_keys.mpr ⟨v, hGet⟩, hGone⟩

/- Once pruned, `mine` is what the range still holds. -/
theorem pruned_holds
    {t : Reservations}
    {request : Request}
    {prune : Bool}
    (hDomain : ∀ r ∈ rangeReservations t request.rangeId
      request.kind, r.domain = request.domain) :
    Holds (released t request prune) request
      (pruned t request prune (heldValues
        (rangeReservations t request.rangeId
          request.kind))).2 := by
  intro h v
  rw [pruned_get?, get?_heldValues (nodup_holders _ _ _)]
  simp only [released, Table.mem_delete, Row.reservesFor,
    Row.isIn]
  constructor
  · rintro ⟨⟨r, hr, hh, hv⟩, hPrune⟩
    have hIn := hDomain r hr
    rw [mem_rangeReservations] at hr
    refine ⟨r, ⟨hr.1, ?_⟩, ?_, hh, hv⟩
    · rw [Bool.eq_false_iff]
      intro hDrop
      simp only [Bool.and_eq_true, decide_eq_true_eq]
        at hDrop
      exact hDrop.2 (hh ▸ hPrune hDrop.1.1.1)
    · simp [hr.2.1, hr.2.2, hIn]
  · rintro ⟨r, ⟨hr, hKept⟩, hOurs, hh, hv⟩
    simp only [Bool.and_eq_true, decide_eq_true_eq]
      at hOurs
    refine ⟨⟨r, mem_rangeReservations.mpr
      ⟨hr, hOurs.1, hOurs.2.2⟩, hh, hv⟩, ?_⟩
    intro hPrune
    by_contra hGone
    rw [hPrune, hOurs.1, hOurs.2.2] at hKept
    simp [hh, hGone] at hKept

theorem reserveValues_allots
    {destroyed : List Nat}
    {now : Int}
    {t t' : Reservations}
    {request : Request}
    {prune : Bool}
    {excluded : List String}
    {got : Dict String String}
    (hReserve :
      reserveValues destroyed now t request prune excluded =
        .ok (t', got)) :
    ∃ mine pairs,
      Holds (released t request prune) request mine ∧
      (∀ h v, mine.get? h = some v → v ∉ excluded) ∧
      Allots destroyed now request mine excluded
        (released t request prune) t' got pairs := by
  simp only [reserveValues] at hReserve
  split at hReserve
  case isTrue => cases hReserve
  case isFalse =>
    split at hReserve
    case isTrue => cases hReserve
    case isFalse hDomain =>
      split at hReserve
      case isTrue => cases hReserve
      case isFalse hAllowed =>
        rw [pruned_table] at hReserve
        rcases allot_allots hReserve with ⟨pairs, hAllots⟩
        refine ⟨_, pairs, pruned_holds ?_, ?_, hAllots⟩
        · intro r hr
          by_contra hElsewhere
          apply hDomain
          apply List.ne_nil_of_mem (a := r.domain)
          rw [List.mem_filter, decide_eq_true_eq]
          exact ⟨List.mem_map_of_mem hr, hElsewhere⟩
        · intro h v hGet hExcluded
          apply hAllowed
          apply List.ne_nil_of_mem (a := v)
          rw [List.mem_filter, decide_eq_true_eq]
          refine ⟨List.mem_map.mpr ⟨(h, v), ?_, rfl⟩,
            hExcluded⟩
          exact Dict.get?_eq_some_iff.mp hGet

/- `reserve_values` serves the request, or changes nothing. -/
theorem reserveValues_serves
    {destroyed : List Nat}
    {now : Int}
    {t t' : Reservations}
    {request : Request}
    {prune : Bool}
    {excluded : List String}
    {got : Dict String String}
    (hReserve :
      reserveValues destroyed now t request prune excluded =
        .ok (t', got)) :
    Serves destroyed request excluded
      (released t request prune) t' got := by
  rcases reserveValues_allots hReserve with
    ⟨mine, pairs, hHolds, hAllowed, hAllots⟩
  exact hAllots.serves hHolds hAllowed

end Worker

end RangeAlloc

end TrueNorth

--------
-- The API's Answers
--------

namespace TrueNorth

namespace RangeAlloc

namespace Api

/- What the range holds in the domain. -/
theorem holds
    (t : Reservations)
    (request : Request) :
    Holds t request (Worker.heldValues
      ((rangeReservations t request.rangeId
        request.kind).filter
          (fun r => r.domain = request.domain))) := by
  intro h v
  have hNodup :
      (((rangeReservations t request.rangeId
        request.kind).filter
          (fun r => r.domain = request.domain)).map
            Row.holder).Nodup :=
    (nodup_holders t request.rangeId request.kind).sublist
      (List.filter_sublist.map _)
  rw [get?_heldValues hNodup]
  simp only [List.mem_filter, Worker.mem_rangeReservations,
    Row.reservesFor, Row.isIn, Bool.and_eq_true,
    decide_eq_true_eq]
  constructor
  · rintro ⟨r, ⟨⟨hr, hOurs, hKind⟩, hDomain⟩, hRow⟩
    exact ⟨r, hr, ⟨hOurs, hDomain, hKind⟩, hRow⟩
  · rintro ⟨r, hr, ⟨hOurs, hDomain, hKind⟩, hRow⟩
    exact ⟨r, ⟨⟨hr, hOurs, hKind⟩, hDomain⟩, hRow⟩

theorem reserve_allots
    {destroyed : List Nat}
    {now : Int}
    {t t' : Reservations}
    {request : Request}
    {got : Dict String String}
    (hReserve :
      reserve destroyed now t request = .ok (t', got)) :
    ∃ mine pairs,
      Holds t request mine ∧
      Allots destroyed now request mine [] t t' got pairs := by
  simp only [reserve] at hReserve
  split at hReserve
  case isTrue => cases hReserve
  case isFalse =>
    split at hReserve
    case isTrue => cases hReserve
    case isFalse =>
      rcases allot_allots hReserve with ⟨pairs, hAllots⟩
      exact ⟨_, pairs, holds t request, hAllots⟩

theorem reserve_serves
    {destroyed : List Nat}
    {now : Int}
    {t t' : Reservations}
    {request : Request}
    {got : Dict String String}
    (hReserve :
      reserve destroyed now t request = .ok (t', got)) :
    Serves destroyed request [] t t' got := by
  rcases reserve_allots hReserve with
    ⟨mine, pairs, hHolds, hAllots⟩
  exact hAllots.serves hHolds (by simp)

/- What `sync` leaves of the range's rows of the kind. -/
def released
    (t : Reservations)
    (request : Request) : Reservations :=
  t.delete (fun r =>
    r.heldBy request.rangeId && r.kind = request.kind &&
      isStale request r)

/- Without holders, `sync` releases all of the kind. -/
theorem serves_none
    {destroyed : List Nat}
    {request : Request}
    (hNone : request.holders = [])
    (t : Reservations) :
    Serves destroyed request [] t t .empty := by
  constructor
  case holders => simp [hNone, Dict.empty, Dict.keys]
  case allowed => simp
  case reserved =>
    intro _ h v hGot
    cases hGot
  case kept =>
    intro r _ _ hHolder
    rw [hNone] at hHolder
    cases hHolder
  case assigned =>
    have hNew : newHolders t request = [] := by
      simp [newHolders, hNone, Dict.fromkeys]
    simp [hNew]

theorem sync_serves
    {destroyed : List Nat}
    {now : Int}
    {t t' : Reservations}
    {request : Request}
    {got : Dict String String}
    (hSync : sync destroyed now t request = .ok (t', got)) :
    Serves destroyed request [] (released t request) t'
      got := by
  simp only [sync] at hSync
  split at hSync
  case isTrue hNone =>
    cases hSync
    exact serves_none hNone _
  case isFalse => exact reserve_serves hSync

/- All that `sync` answers is from the pool. -/
theorem sync_pool
    {destroyed : List Nat}
    {now : Int}
    {t t' : Reservations}
    {request : Request}
    {got : Dict String String}
    (hSync : sync destroyed now t request = .ok (t', got))
    {h v : String}
    (hGot : got.get? h = some v) :
    v ∈ request.pool := by
  simp only [sync] at hSync
  split at hSync
  case isTrue =>
    cases hSync
    cases hGot
  case isFalse =>
    rcases reserve_allots hSync with
      ⟨mine, pairs, hHolds, hAllots⟩
    rcases ((hAllots.got_iff h v).mp hGot).2 with hNew | hOld
    · exact (mem_freeValues.mp (hAllots.mem_of_pair hNew).2).1
    · rcases (hHolds h v).mp hOld with ⟨r, hr, hOurs, _, rfl⟩
      rw [Table.mem_delete] at hr
      have hFresh := hr.2
      simp only [Row.reservesFor, Row.isIn, Bool.and_eq_true,
        decide_eq_true_eq] at hOurs
      simp only [hOurs.1, hOurs.2.2, decide_true,
        Bool.true_and, isStale, decide_eq_false_iff_not,
        not_or, not_not] at hFresh
      exact hFresh.2.2

end Api

end RangeAlloc

end TrueNorth

--------
-- Runs
--------

namespace TrueNorth

namespace RangeAlloc

/- A value newly handed out was free. -/
theorem Serves.assigned_free
    {destroyed : List Nat}
    {request : Request}
    {excluded : List String}
    {t t' : Reservations}
    {got : Dict String String}
    (hServes : Serves destroyed request excluded t t' got)
    {h v : String}
    (hNew : h ∈ newHolders t request)
    (hGot : got.get? h = some v) :
    isFree destroyed t request.domain request.kind v =
      true := by
  have hMem : some v ∈ (newHolders t request).map got.get? := by
    rw [← hGot]
    exact List.mem_map_of_mem hNew
  rw [hServes.assigned] at hMem
  rcases List.mem_map.mp hMem with ⟨v', hFree, hSame⟩
  rw [Option.some.inj hSame] at hFree
  exact (mem_freeValues.mp (List.mem_of_mem_take hFree)).2.1

namespace World

/-
  In every table a run reaches the reservations are
  exclusive, and every call from there serves its request
  or is rolled back with its transaction.
-/
theorem run_exclusive
    (actions : List Action) :
    let w := Runs.run step fresh actions
    w.table.rows.Pairwise (fun r r' =>
      ¬ r.SameValue r' ∧ ¬ r.SameHolder r') ∧
    (∀ request prune excluded t' got,
      Worker.reserveValues w.destroyed w.now w.table request
          prune excluded = .ok (t', got) →
        Serves w.destroyed request excluded
          (Worker.released w.table request prune) t' got) ∧
    (∀ request t' got,
      Api.reserve w.destroyed w.now w.table request =
          .ok (t', got) →
        Serves w.destroyed request [] w.table t' got) ∧
    (∀ request t' got,
      Api.sync w.destroyed w.now w.table request =
          .ok (t', got) →
        Serves w.destroyed request []
          (Api.released w.table request) t' got ∧
        ∀ h v, got.get? h = some v → v ∈ request.pool) ∧
    ∀ calls refusal,
      w.transaction calls = .error refusal →
        w.step (.transaction calls) = w := by
  intro w
  refine ⟨?_, ?_, ?_, ?_, ?_⟩
  · refine w.table.exclusive.imp ?_
    intro r r' hFree
    exact not_or.mp hFree
  · intro request prune excluded t' got hReserve
    exact Worker.reserveValues_serves hReserve
  · intro request t' got hReserve
    exact Api.reserve_serves hReserve
  · intro request t' got hSync
    refine ⟨Api.sync_serves hSync, ?_⟩
    intro h v hGot
    exact Api.sync_pool hSync hGot
  · intro calls refusal hRefused
    exact step_refused hRefused

/- One edge, on a pool of one VLAN. -/
def edgeOn (vlan : String) : Request where
  rangeId := 1
  domain := "vsphere:switch"
  kind := "vlan"
  pool := [vlan]
  holders := ["edge"]

/-
  A holder keeps its value when the pool changes under it:
  the answer is then outside the pool.
-/
theorem reserveValues_outside_pool :
    let w := Runs.run step fresh
      [.transaction [.reserveValues (edgeOn "100") true []]]
    (w.result (.reserveValues (edgeOn "200") true [])).toOption.bind
        (fun answer => answer.2.get? "edge") =
      some "100" ∧
    "100" ∉ (edgeOn "200").pool := by
  decide

end World

end RangeAlloc

end TrueNorth
