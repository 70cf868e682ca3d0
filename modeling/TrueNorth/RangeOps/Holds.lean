import Mathlib.Data.Prod.Lex
import TrueNorth.Lib.Keyset
import TrueNorth.MaintenanceWindows.Spans
import TrueNorth.RangeOps.States

/-
  Held operations whose range no maintenance window covers
  any more (range_ops/service.py `released_holds`), read page
  by page, oldest first.

  Key definitions include:
    * `OperationRow`
    * `Operations`
    * `Service.releasedHolds`
    * `Service.Waiting`

  Main theorems:
    * `Service.releaseLoop_eq`
    * `Service.releasedHolds_first`
-/

--------
-- Operation Rows
--------

namespace TrueNorth

namespace RangeOps

open MaintenanceWindows (Uuid Instant Database Outside)

/-
  A row of `range_operations`, as far as its release is
  decided by it.  The id is the UUID's number, which the
  database orders by.
-/
structure OperationRow where
  id : Nat
  rangeId : Uuid
  createdAt : Instant
  status : OpStatus
deriving DecidableEq

abbrev OperationRow.clash (op op' : OperationRow) : Prop :=
  op.id = op'.id

/- The table; the id is its primary key. -/
abbrev Operations :=
  Table OperationRow OperationRow.clash

/- `ORDER BY created_at, id`. -/
def OperationRow.key
    (op : OperationRow) : Instant ×ₗ Nat :=
  toLex (op.createdAt, op.id)

/- The held operations, oldest first. -/
def Operations.heldInOrder
    (ops : Operations) : List OperationRow :=
  Keyset.inOrder OperationRow.key
    (ops.rows.filter (fun op => op.status = .held))

theorem Operations.keys_nodup
    (ops : Operations) :
    ((ops.rows.filter (fun op => op.status = .held)).map
      OperationRow.key).Nodup := by
  refine List.Nodup.sublist (List.filter_sublist.map _) ?_
  rw [List.Nodup, List.pairwise_map]
  refine ops.exclusive.imp ?_
  intro op op' hFree hSame
  exact hFree (congrArg Prod.snd (toLex.injective hSame))

--------
-- The Release
--------

open MaintenanceWindows (Uuid Instant Database Outside)

namespace Service

variable (py : Outside)

/- `HELD_PAGE`. -/
def heldPage : Nat := 200

/- One page of held operations, past the last one read. -/
def holdsPage
    (ops : Operations)
    (after : Option (Instant × Nat)) : List OperationRow :=
  let held := ops.rows.filter (fun op => op.status = .held)
  let past :=
    match after with
    | none => held
    | some (createdAt, id) =>
        held.filter (fun op =>
          op.createdAt > createdAt ∨
            (op.createdAt = createdAt ∧ op.id > id))
  (past.mergeSort (fun op op' =>
    op.createdAt < op'.createdAt ∨
      (op.createdAt = op'.createdAt ∧ op.id ≤ op'.id))).take
        heldPage

/- The page's operations that no window covers at `now`. -/
def uncovered
    (db : Database)
    (now : Instant)
    (page : List OperationRow) : List OperationRow :=
  let ranges := db.ranges.rows.filter
    (fun r => r.id ∈ page.map OperationRow.rangeId)
  let still :=
    MaintenanceWindows.Service.heldRangeIds py db ranges now
  page.filter (fun op => op.rangeId ∉ still)

/-
  The loop.  `clock` is what `_now()` answers, page by page:
  the windows are looked up anew for each page.  `none`: the
  turns ran out.
-/
def releaseLoop
    (db : Database)
    (ops : Operations)
    (clock : Nat → Instant)
    (limit : Int) :
    Nat → Nat → List OperationRow →
      Option (Instant × Nat) → Option (List OperationRow)
| 0, _, _, _ => none
| turns + 1, pages, out, after =>
    if out.length < limit then
      let page := holdsPage ops after
      match page.getLast? with
      | none => some out
      | some last =>
          let more :=
            (uncovered py db (clock pages) page).take
              (limit - out.length).toNat
          releaseLoop db ops clock limit turns (pages + 1)
            (out ++ more) (some (last.createdAt, last.id))
    else
      some out

/-
  Up to `limit` held operations whose range no window covers
  any more.  One turn more than there are operations is
  always enough (`releasedHolds_first`).
-/
def releasedHolds
    (db : Database)
    (ops : Operations)
    (clock : Nat → Instant)
    (limit : Int) : Option (List OperationRow) :=
  releaseLoop py db ops clock limit (ops.rows.length + 1) 0
    [] none

end Service

end RangeOps

end TrueNorth

--------
-- Pages Are Pages of the Order
--------

namespace TrueNorth

namespace RangeOps

open MaintenanceWindows (Uuid Instant Database Outside)

namespace Service

theorem key_lt_iff
    (createdAt : Instant)
    (id : Nat)
    (op : OperationRow) :
    toLex (createdAt, id) < op.key ↔
      op.createdAt > createdAt ∨
        (op.createdAt = createdAt ∧ op.id > id) := by
  unfold OperationRow.key
  rw [Prod.Lex.toLex_lt_toLex]
  exact or_congr Iff.rfl (and_congr_left' eq_comm)

theorem key_le_iff
    (op op' : OperationRow) :
    op.key ≤ op'.key ↔
      op.createdAt < op'.createdAt ∨
        (op.createdAt = op'.createdAt ∧ op.id ≤ op'.id) := by
  unfold OperationRow.key
  rw [Prod.Lex.toLex_le_toLex]

/- The query is a page in the order of the key. -/
theorem holdsPage_eq
    (ops : Operations)
    (after : Option (Instant × Nat)) :
    holdsPage ops after =
      Keyset.page OperationRow.key
        (ops.rows.filter (fun op => op.status = .held))
        (after.map toLex) heldPage := by
  unfold holdsPage Keyset.page Keyset.rest Keyset.inOrder
  simp only [key_le_iff]
  cases after with
  | none =>
      simp only [Option.map_none, Keyset.past_none,
        List.filter_true]
  | some last =>
      rcases last with ⟨createdAt, id⟩
      simp only [Option.map_some, Keyset.past_some, key_lt_iff]

end Service

end RangeOps

end TrueNorth

--------
-- What Is Released
--------

namespace TrueNorth

namespace RangeOps

open MaintenanceWindows (Uuid Instant Database Outside)

namespace Service

variable (py : Outside)

/- No window in effect covers the operation's range. -/
def Uncovered
    (db : Database)
    (now : Instant)
    (op : OperationRow) : Prop :=
  ∀ r ∈ db.ranges.rows,
    r.id = op.rangeId →
      MaintenanceWindows.Service.coveringRange py db r now = []

instance
    (db : Database)
    (now : Instant)
    (op : OperationRow) :
    Decidable (Uncovered py db now op) :=
  inferInstanceAs
    (Decidable (∀ r ∈ db.ranges.rows, _ → _ = []))

theorem uncovered_eq
    (db : Database)
    (now : Instant)
    (page : List OperationRow) :
    uncovered py db now page =
      page.filter (fun op => Uncovered py db now op) := by
  unfold uncovered
  refine List.filter_congr ?_
  intro op hMem
  rw [decide_eq_decide,
    MaintenanceWindows.Service.mem_heldRangeIds]
  have hIn : op.rangeId ∈ page.map OperationRow.rangeId :=
    List.mem_map_of_mem hMem
  constructor
  · intro hFree r hRow hId
    by_contra hCovered
    refine hFree ⟨r, ?_, hId, hCovered⟩
    rw [List.mem_filter, decide_eq_true_eq, hId]
    exact ⟨hRow, hIn⟩
  · rintro hFree ⟨r, hRow, hId, hCovered⟩
    exact hCovered
      (hFree r (List.mem_filter.mp hRow).1 hId)

/-
  The operations of a list no window covers, each judged when
  its page is read; the list begins with a page `pages`.
-/
def judged
    (db : Database)
    (clock : Nat → Instant)
    (pages : Nat)
    (held : List OperationRow) : List OperationRow :=
  ((held.zipIdx (heldPage * pages)).filter (fun entry =>
    Uncovered py db (clock (entry.2 / heldPage)) entry.1)).map
      Prod.fst

/- Operations judged alike, wherever they stand. -/
theorem judged_of_same
    {db : Database}
    {clock : Nat → Instant}
    {held : List OperationRow}
    {keep : OperationRow → Bool}
    {pages : Nat}
    (hSame : ∀ i ∈ held.zipIdx (heldPage * pages),
      (Uncovered py db (clock (i.2 / heldPage)) i.1 ↔
        keep i.1 = true)) :
    judged py db clock pages held = held.filter keep := by
  unfold judged
  have hFilter :
      (held.zipIdx (heldPage * pages)).filter (fun entry =>
          Uncovered py db (clock (entry.2 / heldPage))
            entry.1) =
        (held.zipIdx (heldPage * pages)).filter
          (keep ∘ Prod.fst) := by
    refine List.filter_congr ?_
    intro entry hMem
    rw [Bool.eq_iff_iff, decide_eq_true_eq]
    exact hSame entry hMem
  rw [hFilter, ← List.filter_map, List.zipIdx_map_fst]

/- A page is judged at once, and the rest after it. -/
theorem judged_page
    (db : Database)
    (clock : Nat → Instant)
    (pages : Nat)
    (held : List OperationRow) :
    judged py db clock pages held =
      (held.take heldPage).filter
          (fun op => Uncovered py db (clock pages) op) ++
        judged py db clock (pages + 1)
          (held.drop heldPage) := by
  have hFirst :
      judged py db clock pages (held.take heldPage) =
        (held.take heldPage).filter
          (fun op => Uncovered py db (clock pages) op) := by
    refine judged_of_same py ?_
    rintro ⟨op, i⟩ hMem
    have hRange := List.mem_zipIdx hMem
    have hPage : i / heldPage = pages := by
      rw [List.length_take] at hRange
      unfold heldPage at hRange ⊢
      omega
    simp only [hPage, decide_eq_true_eq]
  rw [← hFirst]
  unfold judged
  conv_lhs => rw [← List.take_append_drop heldPage held]
  rw [List.zipIdx_append, List.filter_append,
    List.map_append]
  congr 1
  by_cases hShort : held.length ≤ heldPage
  · rw [List.drop_eq_nil_of_le hShort]
    rfl
  · rw [List.length_take, Nat.min_eq_left (by omega),
      Nat.mul_succ]

/-
  The loop adds, to what it has put out, the first of the
  operations still to be read that no window covers.  By
  induction on the turns: a page takes at least one of them.
-/
theorem releaseLoop_eq
    (db : Database)
    (ops : Operations)
    (clock : Nat → Instant)
    (limit : Int)
    {turns : Nat}
    (pages : Nat)
    (out : List OperationRow)
    (after : Option (Instant × Nat))
    (hTurns :
      (Keyset.rest OperationRow.key
        (ops.rows.filter (fun op => op.status = .held))
        (after.map toLex)).length < turns) :
    releaseLoop py db ops clock limit turns pages out after =
      some (out ++
        (judged py db clock pages
          (Keyset.rest OperationRow.key
            (ops.rows.filter (fun op => op.status = .held))
            (after.map toLex))).take
              (limit - out.length).toNat) := by
  induction turns generalizing pages out after with
  | zero => omega
  | succ turns ih =>
      rw [releaseLoop]
      split
      · next hRoom =>
          simp only [holdsPage_eq]
          split
          · next hNone =>
              -- an empty page: there is nothing left to read
              have hEmpty := List.getLast?_eq_none_iff.mp hNone
              unfold Keyset.page at hEmpty
              rw [List.take_eq_nil_iff] at hEmpty
              rcases hEmpty with hSize | hRest
              · exact absurd hSize (by decide)
              · rw [hRest]
                simp [judged]
          · next last hLast =>
              have hRest := Keyset.rest_last OperationRow.key
                ops.keys_nodup hLast
              have hKey :
                  (some (last.createdAt, last.id)).map toLex =
                    some last.key := rfl
              have hLess :
                  0 < (Keyset.rest OperationRow.key
                    (ops.rows.filter
                      (fun op => op.status = .held))
                    (after.map toLex)).length := by
                rw [List.length_pos_iff]
                intro hNil
                unfold Keyset.page at hLast
                rw [hNil, List.take_nil] at hLast
                cases hLast
              have hShorter :
                  (Keyset.rest OperationRow.key
                    (ops.rows.filter
                      (fun op => op.status = .held))
                    ((some (last.createdAt, last.id)).map
                      toLex)).length < turns := by
                rw [hKey, hRest, List.length_drop]
                unfold heldPage
                omega
              rw [ih (pages + 1) _ _ hShorter, hKey, hRest,
                uncovered_eq, judged_page py db clock pages,
                Keyset.page, List.take_append,
                List.append_assoc]
              congr 4
              rw [List.length_append, List.length_take]
              omega
      · next hFull =>
          have hZero : (limit - out.length).toNat = 0 := by
            omega
          rw [hZero, List.take_zero, List.append_nil]

/-
  The loop ends, with the first `limit` operations, by age
  and then by id, of those held whose range no window covers
  when their page is read.  Where the covered ranges stay the
  same throughout, the pages do not matter at all.
-/
theorem releasedHolds_first
    (db : Database)
    (ops : Operations)
    (clock : Nat → Instant)
    (limit : Int) :
    releasedHolds py db ops clock limit =
        some ((judged py db clock 0 ops.heldInOrder).take
          limit.toNat) ∧
      ∀ covered : Uuid → Bool,
        (∀ page, ∀ op ∈ ops.rows,
          (Uncovered py db (clock page) op ↔
            covered op.rangeId = false)) →
        releasedHolds py db ops clock limit =
          some ((ops.heldInOrder.filter
            (fun op => !covered op.rangeId)).take
              limit.toNat) := by
  have hLoop :
      releasedHolds py db ops clock limit =
        some ((judged py db clock 0 ops.heldInOrder).take
          limit.toNat) := by
    unfold releasedHolds Operations.heldInOrder
    rw [releaseLoop_eq]
    · rw [Option.map_none, Keyset.rest_none, List.nil_append,
        List.length_nil, Int.ofNat_zero, Int.sub_zero]
    · rw [Option.map_none, Keyset.rest_none,
        (Keyset.inOrder_perm _ _).length_eq]
      exact Nat.lt_succ_of_le (List.length_filter_le _ _)
  refine ⟨hLoop, ?_⟩
  intro covered hCovered
  rw [hLoop]
  congr 2
  refine judged_of_same py ?_
  rintro ⟨op, i⟩ hMem
  have hHeld : op ∈ ops.heldInOrder :=
    List.fst_mem_of_mem_zipIdx hMem
  have hRow : op ∈ ops.rows :=
    (List.mem_filter.mp
      ((Keyset.inOrder_perm _ _).mem_iff.mp hHeld)).1
  rw [hCovered _ op hRow, Bool.not_eq_true']

end Service

end RangeOps

end TrueNorth
