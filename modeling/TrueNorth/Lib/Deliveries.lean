import Mathlib.Data.List.Basic

/-
  At-least-once delivery of a queue, in order.

  What was asked for is numbered in the order it was asked.
  A number is sent when all before it have been sent, maybe
  again, and is forgotten only once it was sent.

  Main declarations:
    * `Deliveries.Queue`
    * `Deliveries.Step`
    * `Deliveries.Sound`
    * `Deliveries.Step.sound`
-/

--------
-- Queues
--------

namespace Deliveries

/- `left` are those that are still to be sent, or again. -/
structure Queue where
  asked : Nat
  sent : List Nat
  left : List Nat
deriving DecidableEq

/- Nothing was asked for. -/
def Queue.empty : Queue where
  asked := 0
  sent := []
  left := []

inductive Step : Queue → Queue → Prop where
| same
    (q : Queue) :
    Step q q
| ask
    (q : Queue)
    (n : Nat) :
    Step q
      { q with
        asked := q.asked + n
        left := q.left ++ List.range' q.asked n }
| send
    (q : Queue)
    (i : Nat)
    (hEarlier : ∀ j < i, j ∈ q.sent) :
    Step q { q with sent := q.sent ++ [i] }
| forget
    (q : Queue)
    (left : List Nat)
    (hSent : ∀ i ∈ q.left, i ∈ left ∨ i ∈ q.sent) :
    Step q { q with left := left }

/- Everything before a number was sent before it was. -/
def Ordered (sent : List Nat) : Prop :=
  ∀ before i after,
    sent = before ++ i :: after → i ∉ before →
      ∀ j < i, j ∈ before

structure Sound (q : Queue) : Prop where
  kept : ∀ i < q.asked, i ∈ q.sent ∨ i ∈ q.left
  ordered : Ordered q.sent

theorem Ordered.snoc
    {sent : List Nat}
    (hOrdered : Ordered sent)
    {i : Nat}
    (hEarlier : ∀ j < i, j ∈ sent) :
    Ordered (sent ++ [i]) := by
  intro before k after hSplit hFirst j hLess
  rcases List.eq_nil_or_concat after with
    rfl | ⟨after', last, rfl⟩
  · -- the number is the last one sent
    rcases List.append_inj' hSplit rfl with ⟨rfl, hLast⟩
    cases hLast
    exact hEarlier j hLess
  · rw [List.concat_eq_append, ← List.cons_append,
      ← List.append_assoc] at hSplit
    rcases List.append_inj' hSplit rfl with ⟨hInit, _⟩
    exact hOrdered before k after' hInit hFirst j hLess

theorem sound_empty :
    Sound Queue.empty := by
  refine ⟨nofun, ?_⟩
  intro before i after hSplit
  cases before <;> cases hSplit

theorem Step.sound
    {q q' : Queue}
    (hStep : Step q q')
    (hSound : Sound q) :
    Sound q' := by
  cases hStep with
  | same => exact hSound
  | ask n =>
      refine ⟨?_, hSound.ordered⟩
      intro i hLess
      by_cases hOld : i < q.asked
      · rcases hSound.kept i hOld with hSent | hLeft
        · exact .inl hSent
        · exact .inr (List.mem_append_left _ hLeft)
      · right
        apply List.mem_append_right
        rw [List.mem_range'_1]
        exact ⟨Nat.le_of_not_lt hOld, hLess⟩
  | send i hEarlier =>
      refine ⟨?_, hSound.ordered.snoc hEarlier⟩
      intro j hLess
      rcases hSound.kept j hLess with hSent | hLeft
      · exact .inl (List.mem_append_left _ hSent)
      · exact .inr hLeft
  | forget left hSent =>
      refine ⟨?_, hSound.ordered⟩
      intro i hLess
      rcases hSound.kept i hLess with hOld | hLeft
      · exact .inl hOld
      · exact (hSent i hLeft).symm

end Deliveries
