import TrueNorth.Lib.Pointwise
import TrueNorth.RangeOps.Ledger

/-
  The ledger's invariant over every run: one operation in
  flight, generations in acceptance order, one operation per
  idempotency key, and settled operations that stay settled.

  Key definitions include:
    * `Evolves`
    * `Apart`
    * `Ledger.Change`
    * `Ledger.Inv`
    * `Ledger.run_ledger`
-/

--------
-- How an Operation Evolves
--------

namespace TrueNorth

namespace RangeOps

/-
  An operation keeps what it was accepted with, and once it
  is no longer in flight also its status.
-/
structure Evolves (op op' : Operation) : Prop where
  id : op'.id = op.id
  action : op'.action = op.action
  generation : op'.generation = op.generation
  key : op'.idempotencyKey = op.idempotencyKey
  hash : op'.requestHash = op.requestHash
  settled : op.inFlight = false → op'.status = op.status

namespace Evolves

theorem refl
    (op : Operation) :
    Evolves op op :=
  ⟨rfl, rfl, rfl, rfl, rfl, fun _ => rfl⟩

theorem inFlight
    {op op' : Operation}
    (hEvolves : Evolves op op')
    (hInFlight : op'.inFlight = true) :
    op.inFlight = true := by
  cases hOp : op.inFlight with
  | true => rfl
  | false =>
      unfold Operation.inFlight at hInFlight hOp
      rw [hEvolves.settled hOp, hOp] at hInFlight
      cases hInFlight

theorem trans
    {a b c : Operation}
    (hab : Evolves a b)
    (hbc : Evolves b c) :
    Evolves a c := by
  refine ⟨hbc.id.trans hab.id, hbc.action.trans hab.action,
    hbc.generation.trans hab.generation,
    hbc.key.trans hab.key, hbc.hash.trans hab.hash, ?_⟩
  intro hSettled
  have hMid : b.inFlight = false := by
    unfold Operation.inFlight at hSettled ⊢
    rwa [hab.settled hSettled]
  exact (hbc.settled hMid).trans (hab.settled hSettled)

end Evolves

/- Only an operation in flight is given another status. -/
private theorem evolves_of_status
    {op : Operation}
    (hInFlight : op.inFlight = true)
    (status : OpStatus)
    (bypass taskId : Option String)
    (attempts : Nat)
    (error : Option OpError)
    (dispatchedAt finishedAt : Option Nat) :
    Evolves op
      { op with
        status := status
        windowBypass := bypass
        taskId := taskId
        dispatchAttempts := attempts
        error := error
        dispatchedAt := dispatchedAt
        finishedAt := finishedAt } := by
  refine ⟨rfl, rfl, rfl, rfl, rfl, ?_⟩
  intro hSettled
  rw [hInFlight] at hSettled
  cases hSettled

theorem reconcile_evolves
    (state : RangeState)
    (errorMessage : Option String)
    (now : Nat)
    (op : Operation) :
    Evolves op (op.reconcile state errorMessage now) := by
  unfold Operation.reconcile
  split
  · next hDispatched =>
      have hInFlight : op.inFlight = true := by
        simp [Operation.inFlight, hDispatched,
          OpStatus.inFlight]
      split
      · exact evolves_of_status hInFlight _ _ _ _ _ _ _
      · split
        · split
          · exact evolves_of_status hInFlight _ _ _ _ _ _ _
          · exact .refl op
        · exact .refl op
  · exact .refl op

theorem supersede_evolves
    (now : Nat)
    (op : Operation) :
    Evolves op (op.supersede now) := by
  unfold Operation.supersede
  split
  · next hInFlight =>
      exact evolves_of_status hInFlight _ _ _ _ _ _ _
  · exact .refl op

theorem hold_evolves
    (why : String)
    (op : Operation) :
    Evolves op (op.hold why) := by
  unfold Operation.hold
  split
  · next hStatus =>
      have hInFlight : op.inFlight = true := by
        rcases hStatus with hStatus | hStatus <;>
          simp [Operation.inFlight, hStatus,
            OpStatus.inFlight]
      exact evolves_of_status hInFlight _ _ _ _ _ _ _
  · exact .refl op

theorem sent_evolves
    {sentFrom : OpStatus}
    (hSent : sentFrom.inFlight = true)
    (taskId : Option String)
    (now : Nat)
    (op : Operation) :
    Evolves op (op.sent sentFrom taskId now) := by
  unfold Operation.sent
  split
  · next hStatus =>
      have hInFlight : op.inFlight = true := by
        unfold Operation.inFlight
        rw [hStatus]
        exact hSent
      split
      · exact evolves_of_status hInFlight _ _ _ _ _ _ _
      · exact evolves_of_status hInFlight _ _ _ _ _ _ _
  · exact .refl op

theorem takeBypass_evolves
    (windowBypass : String)
    (force : Bool)
    (op : Operation) :
    Evolves op (op.takeBypass windowBypass force) := by
  unfold Operation.takeBypass
  by_cases hHeld : op.status = .held
  · have hInFlight : op.inFlight = true := by
      simp [Operation.inFlight, hHeld, OpStatus.inFlight]
    by_cases hTake : op.windowBypass = none ∨ force = true
    · simp only [if_pos hTake, hHeld, if_true]
      exact evolves_of_status hInFlight _ _ _ _ _ _ _
    · simp only [if_neg hTake, hHeld, if_true]
      exact evolves_of_status hInFlight _ _ _ _ _ _ _
  · by_cases hTake : op.windowBypass = none ∨ force = true
    · simp only [if_pos hTake, if_neg hHeld]
      exact ⟨rfl, rfl, rfl, rfl, rfl, fun _ => rfl⟩
    · simp only [if_neg hTake, if_neg hHeld]
      exact .refl op

theorem abandon_evolves
    {op : Operation}
    (hInFlight : op.inFlight = true)
    (message : String)
    (now : Nat) :
    Evolves op (op.abandon message now) :=
  evolves_of_status hInFlight _ _ _ _ _ _ _

--------
-- How a Ledger Changes
--------

variable {requestHash : RangeAction → Nat}

/- Two operations of a range, the first accepted first. -/
structure Apart (a b : Operation) : Prop where
  id : a.id ≠ b.id
  generation : a.generation < b.generation
  key :
    a.idempotencyKey = b.idempotencyKey →
      a.idempotencyKey = none
  inFlight : a.inFlight = true → b.inFlight = false

theorem Apart.evolves
    {a b a' b' : Operation}
    (hApart : Apart a b)
    (ha : Evolves a a')
    (hb : Evolves b b') :
    Apart a' b' := by
  refine ⟨?_, ?_, ?_, ?_⟩
  · rw [ha.id, hb.id]
    exact hApart.id
  · rw [ha.generation, hb.generation]
    exact hApart.generation
  · rw [ha.key, hb.key]
    exact hApart.key
  · intro hInFlight
    cases hb' : b'.inFlight with
    | false => rfl
    | true =>
        have hNot := hApart.inFlight (ha.inFlight hInFlight)
        rw [hb.inFlight hb'] at hNot
        cases hNot

structure Ledger.Inv
    (requestHash : RangeAction → Nat)
    (l : Ledger) : Prop where
  apart : l.ops.Pairwise Apart
  hashes :
    ∀ op ∈ l.ops, op.requestHash = requestHash op.action

/-
  A step rewrites operations in place; an acceptance, which
  leaves nothing in flight, adds one more at the end.
-/
inductive Ledger.Change
    (requestHash : RangeAction → Nat)
    (l : Ledger) : Ledger → Prop where
| evolves
    (l' : Ledger)
    (hOps : List.Forall₂ Evolves l.ops l'.ops) :
    Change requestHash l l'
| accepts
    (mid : List Operation)
    (op : Operation)
    (l' : Ledger)
    (hMid : List.Forall₂ Evolves l.ops mid)
    (hSettled : ∀ o ∈ mid, o.inFlight = false)
    (hApart : ∀ o ∈ mid, Apart o op)
    (hHash : op.requestHash = requestHash op.action)
    (hOps : l'.ops = mid ++ [op]) :
    Change requestHash l l'

--------
-- Every Step Is a Change
--------

variable {requestHash : RangeAction → Nat}

namespace Ledger

theorem reconcile_ops
    (l : Ledger)
    (now : Nat) :
    List.Forall₂ Evolves l.ops (l.reconcile now).ops :=
  Pointwise.of_map
    (fun op _ => reconcile_evolves l.state l.errorMessage now op)

/- Rewriting one operation, named by its id. -/
theorem update_ops
    {l : Ledger}
    {id : Nat}
    {f : Operation → Operation}
    (hf : ∀ op ∈ l.ops, op.id = id → Evolves op (f op)) :
    List.Forall₂ Evolves l.ops (l.update id f).ops := by
  apply Pointwise.of_map
  intro op hMem
  by_cases hId : op.id = id
  · rw [if_pos hId]
    exact hf op hMem hId
  · rw [if_neg hId]
    exact .refl op

theorem evolves_trans
    {a b c : List Operation}
    (hab : List.Forall₂ Evolves a b)
    (hbc : List.Forall₂ Evolves b c) :
    List.Forall₂ Evolves a c :=
  Pointwise.trans (fun _ _ _ h h' => h.trans h') hab hbc

/- Ids are unique, so the operation found is the only one. -/
theorem eq_of_id
    {ops : List Operation}
    (hApart : ops.Pairwise Apart)
    {a b : Operation}
    (ha : a ∈ ops)
    (hb : b ∈ ops)
    (hId : a.id = b.id) :
    a = b := by
  induction ops with
  | nil => cases ha
  | cons op ops ih =>
      rcases List.pairwise_cons.mp hApart with
        ⟨hFirst, hRest⟩
      rcases List.mem_cons.mp ha with rfl | ha'
      · rcases List.mem_cons.mp hb with rfl | hb'
        · rfl
        · exact absurd hId (hFirst b hb').id
      · rcases List.mem_cons.mp hb with rfl | hb'
        · exact absurd hId.symm (hFirst a ha').id
        · exact ih hRest ha' hb'

theorem nextGeneration_gt
    {l : Ledger}
    {op : Operation}
    (hMem : op ∈ l.ops) :
    op.generation < l.nextGeneration := by
  unfold nextGeneration
  generalize l.ops = ops at hMem
  induction ops with
  | nil => cases hMem
  | cons o ops ih =>
      simp only [List.map_cons, List.foldr_cons]
      rcases List.mem_cons.mp hMem with rfl | hTail
      · omega
      · have hRest := ih hTail
        omega

/- What `_check` leaves: nothing in flight. -/
theorem check_ok
    {l l' : Ledger}
    {seen : Surroundings}
    {action : RangeAction}
    (hCheck : l.check seen action = .ok l') :
    List.Forall₂ Evolves l.ops l'.ops ∧
      ∀ op ∈ l'.ops, op.inFlight = false := by
  have hReconcile := l.reconcile_ops seen.now
  unfold check at hCheck
  simp only at hCheck
  split at hCheck
  · cases hCheck
  · split at hCheck
    · cases hCheck
      refine ⟨evolves_trans hReconcile ?_, ?_⟩
      · exact Pointwise.of_map
          (fun op _ => supersede_evolves seen.now op)
      · intro op hMem
        rcases List.mem_map.mp hMem with ⟨o, _, rfl⟩
        unfold Operation.supersede
        split
        · rfl
        · next hNot => simpa using hNot
    · split at hCheck
      · cases hCheck
      · next hNone =>
          cases hCheck
          refine ⟨hReconcile, ?_⟩
          intro op hMem
          cases hOp : op.inFlight with
          | false => rfl
          | true =>
              have hMem' :
                  op ∈ (l.reconcile seen.now).inFlight :=
                List.mem_filter.mpr ⟨hMem, hOp⟩
              rw [hNone] at hMem'
              cases hMem'

/- What the table's constraints let in. -/
theorem insert_ok
    {l l' : Ledger}
    {op : Operation}
    (hInsert : l.insert op = .ok l') :
    l'.ops = l.ops ++ [op] ∧
      ∀ o ∈ l.ops, o.id ≠ op.id ∧
        (op.idempotencyKey ≠ none →
          o.idempotencyKey ≠ op.idempotencyKey) := by
  unfold insert at hInsert
  split at hInsert
  · cases hInsert
  · next hNone =>
      cases hInsert
      refine ⟨rfl, ?_⟩
      intro o hMem
      rw [List.any_eq_true] at hNone
      refine ⟨?_, ?_⟩
      · intro hId
        exact hNone ⟨o, hMem, by simp [hId]⟩
      · intro hKey hSame
        exact hNone ⟨o, hMem, by simp [hKey, hSame]⟩

/- An acceptance replays an operation or adds one. -/
theorem accept_ok
    {l l' : Ledger}
    {seen : Surroundings}
    {id : Nat}
    {action : RangeAction}
    {key bypass : Option String}
    {op : Operation}
    {created : Bool}
    (hAccept :
      l.accept requestHash seen id action key bypass =
        .ok (l', op, created)) :
    l' = l ∨ Change requestHash l l' := by
  unfold accept at hAccept
  split at hAccept
  · cases hAccept
  · split at hAccept
    · split at hAccept
      · cases hAccept
      · cases hAccept
        exact .inl rfl
    · split at hAccept
      · cases hAccept
      · split at hAccept
        · cases hAccept
        · next mid hCheck =>
            split at hAccept
            · cases hAccept
            · simp only at hAccept
              split at hAccept
              · cases hAccept
              · next l'' hInsert =>
                  cases hAccept
                  rcases check_ok hCheck with
                    ⟨hMid, hSettled⟩
                  rcases insert_ok hInsert with
                    ⟨hOps, hNew⟩
                  refine .inr
                    (.accepts mid.ops _ l' hMid hSettled ?_
                      rfl hOps)
                  intro o hMem
                  rcases hNew o hMem with ⟨hId, hKey⟩
                  refine ⟨hId, nextGeneration_gt hMem, ?_, ?_⟩
                  · intro hSame
                    by_contra hSome
                    rw [hSame] at hSome
                    exact hKey hSome hSame
                  · intro hInFlight
                    rw [hSettled o hMem] at hInFlight
                    cases hInFlight

theorem find_mem
    {l : Ledger}
    {id : Nat}
    {op : Operation}
    (hFind : l.find id = some op) :
    op ∈ l.ops ∧ op.id = id := by
  refine ⟨List.mem_of_find?_eq_some hFind, ?_⟩
  simpa using List.find?_some hFind

theorem dispatch_ops
    (l : Ledger)
    (id : Nat)
    (taskId heldBetween : Option String)
    (now : Nat) :
    List.Forall₂ Evolves l.ops
      (l.dispatch id taskId heldBetween now).ops := by
  have hRefl : List.Forall₂ Evolves l.ops l.ops :=
    List.forall₂_same.mpr (fun op _ => .refl op)
  unfold dispatch
  split
  · exact hRefl
  · next op hFind =>
      split
      · next hStatus =>
          have hSent : op.status.inFlight = true := by
            rcases hStatus with hStatus | hStatus <;>
              simp [hStatus, OpStatus.inFlight]
          simp only
          refine evolves_trans ?_
            (update_ops
              (fun op' _ _ => sent_evolves hSent taskId now op'))
          -- the hold that came in between, if any
          split
          · exact update_ops
              (fun op _ _ => hold_evolves _ op)
          · exact hRefl
      · exact hRefl

theorem runDestroyWithBypass_ops
    {l l' : Ledger}
    {bypass : String}
    {force : Bool}
    {op : Option Operation}
    (hRun : l.runDestroyWithBypass bypass force = .ok (l', op)) :
    List.Forall₂ Evolves l.ops l'.ops := by
  unfold runDestroyWithBypass at hRun
  split at hRun
  · cases hRun
  · split at hRun
    · cases hRun
      exact List.forall₂_same.mpr (fun op _ => .refl op)
    · cases hRun
      exact update_ops
        (fun op _ _ => takeBypass_evolves bypass force op)

theorem abandon_ops
    {l l' : Ledger}
    {id now : Nat}
    {message : String}
    (hApart : l.ops.Pairwise Apart)
    (hAbandon : l.abandon id message now = .ok l') :
    List.Forall₂ Evolves l.ops l'.ops := by
  have hReconcile := l.reconcile_ops now
  have hApart' : (l.reconcile now).ops.Pairwise Apart :=
    Pointwise.pairwise
      (fun _ _ _ _ ha hb hApart => hApart.evolves ha hb)
      hReconcile hApart
  unfold abandon at hAbandon
  simp only at hAbandon
  split at hAbandon
  · cases hAbandon
  · next op hFind =>
      split at hAbandon
      · next hInFlight =>
          rcases find_mem hFind with ⟨hMem, hId⟩
          have hUpdate :
              List.Forall₂ Evolves (l.reconcile now).ops
                ((l.reconcile now).update id
                  (Operation.abandon message now)).ops := by
            apply update_ops
            intro op' hMem' hId'
            have hSame : op' = op :=
              eq_of_id hApart' hMem' hMem
                (hId'.trans hId.symm)
            rw [hSame]
            exact abandon_evolves hInFlight message now
          split at hAbandon <;>
            · cases hAbandon
              exact evolves_trans hReconcile hUpdate
      · cases hAbandon

theorem step_change
    {l : Ledger}
    (a : Step)
    (hInv : l.Inv requestHash) :
    Change requestHash l (l.step requestHash a) := by
  have hRefl : List.Forall₂ Evolves l.ops l.ops :=
    List.forall₂_same.mpr (fun op _ => .refl op)
  cases a with
  | accept seen id action key bypass =>
      simp only [step]
      split
      · next l' op created hAccept =>
          rcases accept_ok hAccept with rfl | hChange
          · exact .evolves _ hRefl
          · exact hChange
      · exact .evolves _ hRefl
  | dispatch id taskId heldBetween now =>
      exact .evolves _
        (l.dispatch_ops id taskId heldBetween now)
  | hold id why =>
      exact .evolves _
        (update_ops (fun op _ _ => hold_evolves why op))
  | reconcile now => exact .evolves _ (l.reconcile_ops now)
  | runDestroyWithBypass bypass force =>
      simp only [step]
      split
      · next l' op hRun =>
          exact .evolves _ (runDestroyWithBypass_ops hRun)
      · exact .evolves _ hRefl
  | abandon id message now =>
      simp only [step]
      split
      · next l' hAbandon =>
          exact .evolves _ (abandon_ops hInv.apart hAbandon)
      · exact .evolves _ hRefl
  | worker state errorMessage => exact .evolves _ hRefl

end Ledger

end RangeOps

end TrueNorth

--------
-- The Invariant
--------

namespace TrueNorth

namespace RangeOps

variable {requestHash : RangeAction → Nat}

namespace Ledger

theorem Change.inv
    {l l' : Ledger}
    (hChange : Change requestHash l l')
    (hInv : l.Inv requestHash) :
    l'.Inv requestHash := by
  rcases hInv with ⟨hApart, hHashes⟩
  have hRewritten :
      ∀ ops, List.Forall₂ Evolves l.ops ops →
        ops.Pairwise Apart ∧
          ∀ op ∈ ops,
            op.requestHash = requestHash op.action := by
    intro ops hOps
    refine ⟨?_, ?_⟩
    · exact Pointwise.pairwise
        (fun _ _ _ _ ha hb hApart => hApart.evolves ha hb)
        hOps hApart
    · intro op hMem
      rcases Pointwise.mem_right hOps hMem with
        ⟨o, hOld, hEvolves⟩
      rw [hEvolves.hash, hEvolves.action]
      exact hHashes o hOld
  cases hChange with
  | evolves _ hOps =>
      rcases hRewritten _ hOps with ⟨hApart', hHashes'⟩
      exact ⟨hApart', hHashes'⟩
  | accepts mid op _ hMid hSettled hNew hHash hOps =>
      rcases hRewritten _ hMid with ⟨hApart', hHashes'⟩
      refine ⟨?_, ?_⟩
      · rw [hOps, List.pairwise_append]
        refine ⟨hApart', List.pairwise_singleton _ _, ?_⟩
        intro o hMem o' hMem'
        rw [List.mem_singleton] at hMem'
        rw [hMem']
        exact hNew o hMem
      · intro o hMem
        rw [hOps, List.mem_append, List.mem_singleton] at hMem
        rcases hMem with hMem | rfl
        · exact hHashes' o hMem
        · exact hHash

theorem step_inv
    (l : Ledger)
    (a : Step)
    (hInv : l.Inv requestHash) :
    (l.step requestHash a).Inv requestHash :=
  (step_change a hInv).inv hInv

theorem empty_inv
    (state : RangeState) :
    (empty state).Inv requestHash := by
  refine ⟨.nil, ?_⟩
  intro op hMem
  cases hMem

theorem run_inv
    (state : RangeState)
    (steps : List Step) :
    (Runs.run (step requestHash) (empty state) steps).Inv
      requestHash :=
  Runs.run_invariant (Inv requestHash) step_inv
    (empty_inv state) steps

/- At most one operation of the range is in flight. -/
theorem Inv.inFlight_le
    {l : Ledger}
    (hInv : l.Inv requestHash) :
    l.inFlight.length ≤ 1 := by
  have hPairwise :
      l.inFlight.Pairwise Apart :=
    hInv.apart.filter _
  have hAll :
      ∀ op ∈ l.inFlight, op.inFlight = true :=
    fun op hMem => (List.mem_filter.mp hMem).2
  cases hList : l.inFlight with
  | nil => simp
  | cons a rest =>
      cases rest with
      | nil => simp
      | cons b rest =>
          rw [hList] at hPairwise hAll
          have hApart :=
            (List.pairwise_cons.mp hPairwise).1 b
              List.mem_cons_self
          have hSettled :=
            hApart.inFlight (hAll a List.mem_cons_self)
          rw [hAll b (by simp)] at hSettled
          cases hSettled

/- One step keeps every operation where and what it was. -/
theorem step_getElem?
    {l : Ledger}
    (a : Step)
    (hInv : l.Inv requestHash)
    {i : Nat}
    {op : Operation}
    (hGet : l.ops[i]? = some op) :
    ∃ op', (l.step requestHash a).ops[i]? = some op' ∧
      Evolves op op' := by
  have hChange := step_change a hInv
  generalize l.step requestHash a = l' at hChange ⊢
  cases hChange with
  | evolves _ hOps => exact Pointwise.getElem?_right hOps hGet
  | accepts mid new _ hMid hSettled hNew hHash hOps =>
      rcases Pointwise.getElem?_right hMid hGet with
        ⟨op', hGet', hEvolves⟩
      refine ⟨op', ?_, hEvolves⟩
      have hLength :=
        (List.getElem?_eq_some_iff.mp hGet').1
      rw [hOps, List.getElem?_append_left hLength]
      exact hGet'

theorem run_getElem?
    {l : Ledger}
    (hInv : l.Inv requestHash)
    {i : Nat}
    {op : Operation}
    (hGet : l.ops[i]? = some op)
    (later : List Step) :
    ∃ op',
      (Runs.run (step requestHash) l later).ops[i]? =
          some op' ∧
        Evolves op op' := by
  have hStep :
      ∀ (k : Ledger) (a : Step),
        (k.Inv requestHash ∧
          ∃ op', k.ops[i]? = some op' ∧ Evolves op op') →
        (k.step requestHash a).Inv requestHash ∧
          ∃ op', (k.step requestHash a).ops[i]? = some op' ∧
            Evolves op op' := by
    rintro k a ⟨hInv, op', hGet', hEvolves⟩
    rcases step_getElem? a hInv hGet' with
      ⟨op'', hGet'', hEvolves'⟩
    exact ⟨step_inv k a hInv, op'', hGet'',
      hEvolves.trans hEvolves'⟩
  exact
    (Runs.run_invariant
      (fun k : Ledger =>
        k.Inv requestHash ∧
          ∃ op', k.ops[i]? = some op' ∧ Evolves op op')
      hStep ⟨hInv, op, hGet, .refl op⟩ later).2

end Ledger

end RangeOps

end TrueNorth

--------
-- The Ledger Over Whole Runs
--------

namespace TrueNorth

namespace RangeOps

variable {requestHash : RangeAction → Nat}

namespace Ledger

/- One operation is recorded under a key. -/
theorem find?_key
    {ops : List Operation}
    (hApart : ops.Pairwise Apart)
    {op : Operation}
    {key : String}
    (hMem : op ∈ ops)
    (hKey : op.idempotencyKey = some key) :
    ops.find? (fun o => o.idempotencyKey == some key) =
      some op := by
  induction ops with
  | nil => cases hMem
  | cons o ops ih =>
      rcases List.pairwise_cons.mp hApart with
        ⟨hFirst, hRest⟩
      rcases List.mem_cons.mp hMem with rfl | hTail
      · simp [hKey]
      · have hOther : o.idempotencyKey ≠ some key := by
          intro hSame
          have hNone :=
            (hFirst op hTail).key (hSame.trans hKey.symm)
          rw [hSame] at hNone
          cases hNone
        have hSkip :
            (o.idempotencyKey == some key) = false := by
          simpa using hOther
        rw [List.find?_cons, hSkip]
        exact ih hRest hTail

/- A replay of a key returns its operation. -/
theorem accept_replay
    {l : Ledger}
    (hInv : l.Inv requestHash)
    {op : Operation}
    {key : String}
    (hMem : op ∈ l.ops)
    (hKey : op.idempotencyKey = some key)
    (hNonempty : key ≠ "")
    (seen : Surroundings)
    (id : Nat)
    {bypass : Option String}
    (hBypass : bypassAllowed op.action bypass = true) :
    l.accept requestHash seen id op.action (some key) bypass =
      .ok (l, op, false) := by
  have hExisting : l.existing (some key) = some op := by
    simp only [existing, if_neg hNonempty]
    exact find?_key hInv.apart hMem hKey
  unfold accept
  rw [hBypass, hExisting]
  simp [hInv.hashes op hMem]

/-
  The ledger in every state any run reaches from a range
  without operations.  At most one operation is in flight;
  generations grow in acceptance order; a key names one
  operation, which a replay of it (not empty, and with a
  bypass the action may have) returns without a change; and
  an operation that has ended keeps its status for good.
-/
theorem run_ledger
    (state : RangeState)
    (steps : List Step) :
    let l := Runs.run (step requestHash) (empty state) steps
    l.inFlight.length ≤ 1 ∧
    l.ops.Pairwise
      (fun a b => a.generation < b.generation) ∧
    l.ops.Pairwise
      (fun a b =>
        a.idempotencyKey ≠ none →
          a.idempotencyKey ≠ b.idempotencyKey) ∧
    (∀ op ∈ l.ops, ∀ key,
      op.idempotencyKey = some key → key ≠ "" →
      ∀ seen id bypass,
        bypassAllowed op.action bypass = true →
        l.accept requestHash seen id op.action (some key)
            bypass = .ok (l, op, false)) ∧
    ∀ (i : Nat) (op : Operation),
      l.ops[i]? = some op → op.status.inFlight = false →
      ∀ later, ∃ op',
        (Runs.run (step requestHash) l later).ops[i]? =
            some op' ∧
          op'.generation = op.generation ∧
          op'.status = op.status := by
  intro l
  have hInv : l.Inv requestHash := run_inv state steps
  refine ⟨hInv.inFlight_le, ?_, ?_, ?_, ?_⟩
  · exact hInv.apart.imp (fun hApart => hApart.generation)
  · refine hInv.apart.imp ?_
    intro a b hApart hSome hSame
    exact hSome (hApart.key hSame)
  · intro op hMem key hKey hNonempty seen id bypass hBypass
    exact accept_replay hInv hMem hKey hNonempty seen id
      hBypass
  · intro i op hGet hSettled later
    rcases run_getElem? hInv hGet later with
      ⟨op', hGet', hEvolves⟩
    exact ⟨op', hGet', hEvolves.generation,
      hEvolves.settled hSettled⟩

/- Nothing outside the ledger stands in the way. -/
def quiet : Surroundings :=
  { now := 0
    window := none
    workerActing := none
    recordedVms := 0
    snapshotBusy := none
    exerciseRunning := false
    poolExhausted := none }

/-
  Two replays with the same action that do not return the
  operation: an empty key is recorded but never looked up,
  so a second provision is checked afresh; and a bypass that
  is not the action's is refused before the key is read.
-/
theorem accept_replay_refused :
    let l :=
      Runs.run (step (fun _ => 0)) (empty .created)
        [.accept quiet 1 .provision (some "") none]
    let l' :=
      Runs.run (step (fun _ => 0)) (empty .created)
        [.accept quiet 1 .provision (some "key") none]
    l.ops.map Operation.idempotencyKey = [some ""] ∧
    l.accept (fun _ => 0) quiet 2 .provision (some "") none =
      .error (.http 409
        "Cannot provision range in state provisioning") ∧
    l'.ops.map Operation.idempotencyKey = [some "key"] ∧
    l'.accept (fun _ => 0) quiet 2 .provision (some "key")
        (some "emergency") =
      .error (.valueError
        "no maintenance-window bypass 'emergency' for provision") := by
  refine ⟨rfl, rfl, rfl, rfl⟩

end Ledger

end RangeOps

end TrueNorth
