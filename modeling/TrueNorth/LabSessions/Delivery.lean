import Mathlib.Data.List.Nodup
import TrueNorth.Lib.Deliveries
import TrueNorth.Lib.Runs
import TrueNorth.LabSessions.Outbox

/-
  What a lab session's outbox delivers: every queued task, in
  order and at least once, and nothing of a run that lost its
  lease.

  Key definitions include:
    * `World.queue`
    * `World.Sound`

  Main theorems:
    * `World.Sound.delivers`
    * `World.outbox_delivers`
-/

--------
-- Sound Worlds
--------

namespace TrueNorth

namespace LabSessions

namespace Outbox

namespace World

/- The outbox as a queue of positions. -/
def queue (w : World) : Deliveries.Queue where
  asked := w.queued.length
  sent := w.sent.map Queued.position
  left := w.pending.map Queued.position

/- What an open transaction has queued so far. -/
structure Asked
    (w : World)
    (asked : List Queued) : Prop where
  positions :
    asked.map Queued.position =
      List.range' w.queued.length asked.length
  fits : ∀ q ∈ asked, validateArgs q.call = .ok ()

/- What is known of a process in the middle of its run. -/
def Knows (w : World) : Phase → Prop
| .idle => True
| .working session token asked _ =>
    session.leaseHolder = some token ∧
      session.pending = w.pending ++ asked ∧
      w.Asked asked
| .committed session token _ =>
    w.row.bind Row.leaseHolder = some token →
      session.pending = w.pending
| .sending session token left kept _ _ =>
    session.leaseHolder = some token ∧
      w.row.bind Row.leaseHolder = some token ∧
      session.pending = w.pending ∧
      ∃ done, w.pending = done ++ kept ++ left ∧
        ∀ q ∈ done, q ∈ w.sent

structure Sound (w : World) : Prop where
  delivers : Deliveries.Sound w.queue
  positions : w.queued.map Queued.position =
    List.range w.queued.length
  fits : ∀ q ∈ w.queued, validateArgs q.call = .ok ()
  sentQueued : ∀ q ∈ w.sent, q ∈ w.queued
  pendingQueued : ∀ q ∈ w.pending, q ∈ w.queued
  sorted : (w.pending.map Queued.position).Pairwise (· < ·)
  noneRefused : w.refused = []
  noRow : w.row = none → w.queued = []
  locked : ∀ p, (w.procs p).locks = true ↔ w.lock = some p
  tokens : ∀ p token,
    (w.procs p).token = some token → token < w.nextToken
  holder : ∀ token,
    w.row.bind Row.leaseHolder = some token →
      token < w.nextToken
  apart : ∀ p q token,
    (w.procs p).token = some token →
      (w.procs q).token = some token → p = q
  knows : ∀ p, w.Knows (w.procs p)

theorem sound_fresh :
    Sound fresh where
  delivers := Deliveries.sound_empty
  positions := rfl
  fits := nofun
  sentQueued := nofun
  pendingQueued := nofun
  sorted := List.Pairwise.nil
  noneRefused := rfl
  noRow _ := rfl
  locked _ := by
    constructor
    · intro h
      cases h
    · intro h
      cases h
  tokens _ _ h := by cases h
  holder _ h := by cases h
  apart _ _ _ h := by cases h
  knows _ := trivial

variable {w w' : World}

theorem procs_setProc
    (w : World)
    (p q : Nat)
    (phase : Phase) :
    (w.setProc p phase).procs q =
      if q = p then phase else w.procs q := rfl

/- Another process that has the row locked leaves no one in. -/
theorem Sound.unlocked
    (hSound : Sound w)
    (hLock : w.lock = none)
    (p : Nat) :
    (w.procs p).locks = false := by
  rw [Bool.eq_false_iff]
  intro hLocks
  rw [(hSound.locked p).mp hLocks] at hLock
  cases hLock

theorem Sound.only
    (hSound : Sound w)
    {p q : Nat}
    (hLocks : (w.procs p).locks = true)
    (hOther : q ≠ p) :
    (w.procs q).locks = false := by
  rw [Bool.eq_false_iff]
  intro hLocks'
  have hp := (hSound.locked p).mp hLocks
  rw [(hSound.locked q).mp hLocks'] at hp
  exact hOther (Option.some.inj hp)

/- A process without the row locked knows no more than this. -/
theorem Knows.of_unlocked
    {phase : Phase}
    (hKnows : w.Knows phase)
    (hUnlocked : phase.locks = false)
    (hSame : ∀ token,
      phase.token = some token →
      w'.row.bind Row.leaseHolder = some token →
        w.row.bind Row.leaseHolder = some token ∧
          w'.pending = w.pending) :
    w'.Knows phase := by
  cases phase with
  | idle => trivial
  | working session token asked resent => cases hUnlocked
  | committed session token resent =>
      intro hHolder
      rcases hSame token rfl hHolder with ⟨hOld, hPending⟩
      rw [hPending]
      exact hKnows hOld
  | sending session token left kept sent resent =>
      cases hUnlocked

--------
-- Steps
--------

variable {w w' : World}

theorem Sound.position_lt
    (hSound : Sound w)
    {q : Queued}
    (hMem : q ∈ w.queued) :
    q.position < w.queued.length := by
  have hPosition :
      q.position ∈ w.queued.map Queued.position :=
    List.mem_map_of_mem hMem
  rw [hSound.positions, List.mem_range] at hPosition
  exact hPosition

/- A queued task is told by its position. -/
theorem Sound.same_of_position
    (hSound : Sound w)
    {q q' : Queued}
    (hMem : q ∈ w.queued)
    (hMem' : q' ∈ w.queued)
    (hSame : q.position = q'.position) :
    q = q' := by
  have hNodup : (w.queued.map Queued.position).Nodup := by
    rw [hSound.positions]
    exact List.nodup_range
  exact List.inj_on_of_nodup_map hNodup hMem hMem' hSame

/- Nothing that the process knows of has changed. -/
theorem Knows.of_row
    {phase : Phase}
    (hKnows : w.Knows phase)
    (hRow : w'.row = w.row)
    (hQueued : w'.queued = w.queued)
    (hSent : ∀ q ∈ w.sent, q ∈ w'.sent) :
    w'.Knows phase := by
  have hPending : w'.pending = w.pending := by
    unfold pending
    rw [hRow]
  cases phase with
  | idle => trivial
  | working session token asked resent =>
      rcases hKnows with ⟨hHolder, hSession, hAsked⟩
      refine ⟨hHolder, ?_, ?_⟩
      · rw [hPending]
        exact hSession
      · refine ⟨?_, hAsked.fits⟩
        rw [hQueued]
        exact hAsked.positions
  | committed session token resent =>
      intro hHolder
      rw [hRow] at hHolder
      rw [hPending]
      exact hKnows hHolder
  | sending session token left kept sent resent =>
      rcases hKnows with
        ⟨hHolder, hRowHolder, hSession, done, hSplit, hDone⟩
      refine ⟨hHolder, ?_, ?_, done, ?_,
        fun q hMem => hSent q (hDone q hMem)⟩
      · rw [hRow]
        exact hRowHolder
      · rw [hPending]
        exact hSession
      · rw [hPending]
        exact hSplit

/-
  A process moves on: the pending tasks of the row stay, the
  lease is kept, given up or first written in its own open
  transaction, and no other process is in one if the row
  changes.
-/
structure Moves
    (w : World)
    (p : Nat)
    (phase : Phase)
    (w' : World) : Prop where
  procs : w'.procs = (w.setProc p phase).procs
  queued : w'.queued = w.queued
  sent : w'.sent = w.sent
  refused : w'.refused = w.refused
  pending : w'.pending = w.pending
  noRow : w'.row = none → w.row = none
  holder : ∀ token,
    w'.row.bind Row.leaseHolder = some token →
      w.row.bind Row.leaseHolder = some token
  row : w'.row = w.row ∨
    ∀ q, q ≠ p → (w.procs q).locks = false
  lock : phase.locks = true ↔ w'.lock = some p
  others : ∀ q, q ≠ p →
    (w'.lock = some q ↔ w.lock = some q)
  next : w.nextToken ≤ w'.nextToken
  token : ∀ token,
    phase.token = some token →
      (w.procs p).token = some token ∨
        (token = w.nextToken ∧ token < w'.nextToken)
  knows : w'.Knows phase

theorem Moves.sound
    (p : Nat)
    (phase : Phase)
    (hMoves : w.Moves p phase w')
    (hSound : Sound w) :
    Sound w' := by
  have hProcs : ∀ q, w'.procs q =
      if q = p then phase else w.procs q := by
    intro q
    rw [hMoves.procs]
    rfl
  have hFresh : ∀ q token, (w.procs q).token = some token →
      token < w'.nextToken :=
    fun q token hToken =>
      Nat.lt_of_lt_of_le (hSound.tokens q token hToken)
        hMoves.next
  constructor
  · have hQueue : w'.queue = w.queue := by
      unfold queue
      rw [hMoves.queued, hMoves.sent, hMoves.pending]
    rw [hQueue]
    exact hSound.delivers
  · rw [hMoves.queued]
    exact hSound.positions
  · rw [hMoves.queued]
    exact hSound.fits
  · rw [hMoves.queued, hMoves.sent]
    exact hSound.sentQueued
  · rw [hMoves.queued, hMoves.pending]
    exact hSound.pendingQueued
  · rw [hMoves.pending]
    exact hSound.sorted
  · rw [hMoves.refused]
    exact hSound.noneRefused
  · intro hNone
    rw [hMoves.queued]
    exact hSound.noRow (hMoves.noRow hNone)
  · intro q
    rw [hProcs]
    by_cases hq : q = p
    · rw [if_pos hq, hq]
      exact hMoves.lock
    · rw [if_neg hq, hMoves.others q hq]
      exact hSound.locked q
  · intro q token hToken
    rw [hProcs] at hToken
    by_cases hq : q = p
    · rw [if_pos hq] at hToken
      rcases hMoves.token token hToken with hOld | ⟨_, hNew⟩
      · exact hFresh p token hOld
      · exact hNew
    · rw [if_neg hq] at hToken
      exact hFresh q token hToken
  · intro token hHolder
    exact Nat.lt_of_lt_of_le
      (hSound.holder token (hMoves.holder token hHolder))
      hMoves.next
  · -- a token that is new is no other process's
    have hOnly : ∀ q token, q ≠ p →
        phase.token = some token →
        (w.procs q).token ≠ some token := by
      intro q token hq hToken hOther
      rcases hMoves.token token hToken with hOld | ⟨hNew, _⟩
      · exact hq (hSound.apart q p token hOther hOld)
      · have hLess := hSound.tokens q token hOther
        rw [hNew] at hLess
        exact Nat.lt_irrefl _ hLess
    intro q q' token hToken hToken'
    rw [hProcs] at hToken hToken'
    by_cases hq : q = p
    · by_cases hq' : q' = p
      · rw [hq, hq']
      · rw [if_pos hq] at hToken
        rw [if_neg hq'] at hToken'
        exact absurd hToken' (hOnly q' token hq' hToken)
    · by_cases hq' : q' = p
      · rw [if_neg hq] at hToken
        rw [if_pos hq'] at hToken'
        exact absurd hToken (hOnly q token hq hToken')
      · rw [if_neg hq] at hToken
        rw [if_neg hq'] at hToken'
        exact hSound.apart q q' token hToken hToken'
  · intro q
    rw [hProcs]
    by_cases hq : q = p
    · rw [if_pos hq]
      exact hMoves.knows
    · rw [if_neg hq]
      rcases hMoves.row with hRow | hAlone
      · apply (hSound.knows q).of_row hRow hMoves.queued
        rw [hMoves.sent]
        exact fun _ hMem => hMem
      · apply (hSound.knows q).of_unlocked (hAlone q hq)
        intro token _ hHolder
        exact ⟨hMoves.holder token hHolder, hMoves.pending⟩

/- The process moves within its open transaction, or ends. -/
theorem Sound.setProc
    (hSound : Sound w)
    {p : Nat}
    {phase : Phase}
    (hLocks : phase.locks = (w.procs p).locks)
    (hToken : ∀ token,
      phase.token = some token →
        (w.procs p).token = some token)
    (hKnows : w.Knows phase) :
    Sound (w.setProc p phase) := by
  apply Moves.sound p phase _ hSound
  exact
    { procs := rfl
      queued := rfl
      sent := rfl
      refused := rfl
      pending := rfl
      noRow := fun hNone => hNone
      holder := fun _ hHolder => hHolder
      row := .inl rfl
      lock := by
        rw [hLocks]
        exact hSound.locked p
      others := fun _ _ => Iff.rfl
      next := Nat.le_refl _
      token := fun token hNew => .inl (hToken token hNew)
      knows := hKnows.of_row rfl rfl (fun _ hMem => hMem) }

theorem Asked.snoc
    {asked : List Queued}
    (hAsked : w.Asked asked)
    (task : LabTask) :
    w.Asked (asked ++ [w.positioned asked task]) := by
  constructor
  · rw [List.map_append, hAsked.positions, List.length_append,
      List.length_singleton, List.range'_1_concat]
    rfl
  · intro q hMem
    rcases List.mem_append.mp hMem with hOld | hNew
    · exact hAsked.fits q hOld
    · rw [List.mem_singleton] at hNew
      rw [hNew]
      exact validateArgs_call task

/- What the calls of `_send` add to the session. -/
theorem sendAll_spec
    (session : Row)
    (base asked : List Queued)
    (tasks : List LabTask)
    (hSession : session.pending = base ++ asked)
    (hAsked : w.Asked asked) :
    (w.sendAll session asked tasks).1.pending =
        base ++ (w.sendAll session asked tasks).2 ∧
      w.Asked (w.sendAll session asked tasks).2 ∧
      (w.sendAll session asked tasks).1.leaseHolder =
        session.leaseHolder := by
  induction tasks generalizing session asked with
  | nil => exact ⟨hSession, hAsked, rfl⟩
  | cons task tasks ih =>
      unfold sendAll
      apply ih
      · unfold Row.send
        rw [hSession, List.append_assoc]
      · exact hAsked.snoc task

theorem asked_nil :
    w.Asked [] :=
  ⟨rfl, nofun⟩

/- The row is locked by a process that begins its run. -/
theorem Sound.begins
    (hSound : Sound w)
    {p : Nat}
    (hLock : w.lock = none)
    {session : Row}
    {asked : List Queued}
    {resent : Bool}
    (hHolder : session.leaseHolder = some w.nextToken)
    (hSession : session.pending = w.pending ++ asked)
    (hAsked : w.Asked asked) :
    Sound
      { w.setProc p
          (.working session w.nextToken asked resent) with
        lock := some p
        nextToken := w.nextToken + 1 } := by
  apply Moves.sound p (.working session w.nextToken asked resent) _ hSound
  exact
    { procs := rfl
      queued := rfl
      sent := rfl
      refused := rfl
      pending := rfl
      noRow := fun hNone => hNone
      holder := fun _ hOld => hOld
      row := .inl rfl
      lock := ⟨fun _ => rfl, fun _ => rfl⟩
      others := by
        intro q hq
        rw [hLock]
        constructor
        · intro hSame
          exact absurd (Option.some.inj hSame).symm hq
        · intro hSame
          cases hSame
      next := Nat.le_succ _
      token := by
        intro token hToken
        cases hToken
        exact .inr ⟨rfl, Nat.lt_succ_self _⟩
      knows := ⟨hHolder, hSession, hAsked.positions,
        hAsked.fits⟩ }

theorem Sound.launch
    (hSound : Sound w)
    (p : Nat)
    (tasks : List LabTask) :
    Sound (w.launch p tasks) := by
  unfold World.launch
  cases hRow : w.row with
  | some row => exact hSound
  | none =>
      cases hLock : w.lock with
      | some q => exact hSound
      | none =>
          cases hProc : w.procs p with
          | working session token asked resent => exact hSound
          | committed session token resent => exact hSound
          | sending session token left kept sent resent =>
              exact hSound
          | idle =>
              have hPending : w.pending = [] := by
                unfold pending
                rw [hRow]
              have hSpec := sendAll_spec (w := w)
                { pending := []
                  leaseUntil := some (w.now + leaseSeconds)
                  leaseHolder := some w.nextToken
                  stateSince := w.now
                  error := "" }
                [] [] tasks rfl asked_nil
              exact hSound.begins hLock hSpec.2.2
                (by rw [hPending]; exact hSpec.1) hSpec.2.1

theorem Sound.claim
    (hSound : Sound w)
    (p read : Nat) :
    Sound (w.claim p read) := by
  unfold World.claim
  cases hRow : w.row with
  | none => exact hSound
  | some row =>
      cases hLock : w.lock with
      | some q => exact hSound
      | none =>
          cases hProc : w.procs p with
          | working session token asked resent => exact hSound
          | committed session token resent => exact hSound
          | sending session token left kept sent resent =>
              exact hSound
          | idle =>
              dsimp only
              by_cases hFree : row.free read = true
              · rw [if_pos hFree]
                refine hSound.begins hLock rfl ?_ asked_nil
                unfold pending
                rw [hRow, List.append_nil]
                rfl
              · rw [if_neg hFree]
                exact hSound

/- Operations queue more tasks in their own transaction. -/
theorem Sound.queues
    (hSound : Sound w)
    {p token : Nat}
    {session : Row}
    {asked : List Queued}
    {resent : Bool}
    (hProc : w.procs p = .working session token asked resent)
    (tasks : List LabTask)
    (resent' : Bool) :
    Sound
      (w.setProc p
        (.working (w.sendAll session asked tasks).1 token
          (w.sendAll session asked tasks).2 resent')) := by
  have hKnows := hSound.knows p
  rw [hProc] at hKnows
  rcases hKnows with ⟨hHolder, hSession, hAsked⟩
  have hSpec :=
    sendAll_spec session w.pending asked tasks hSession hAsked
  apply hSound.setProc
  · rw [hProc]
    rfl
  · rw [hProc]
    exact fun _ hToken => hToken
  · exact ⟨hSpec.2.2.trans hHolder, hSpec.1, hSpec.2.1⟩

theorem Sound.operate
    (hSound : Sound w)
    (p : Nat)
    (tasks : List LabTask) :
    Sound (w.operate p tasks) := by
  unfold World.operate
  cases hProc : w.procs p with
  | idle => exact hSound
  | committed session token resent => exact hSound
  | sending session token left kept sent resent => exact hSound
  | working session token asked resent =>
      exact hSound.queues hProc tasks resent

theorem Sound.advance
    (hSound : Sound w)
    (p : Nat)
    (tasks : List LabTask) :
    Sound (w.advance p tasks) := by
  unfold World.advance
  cases hProc : w.procs p with
  | idle => exact hSound
  | committed session token resent => exact hSound
  | sending session token left kept sent resent => exact hSound
  | working session token asked resent =>
      dsimp only
      by_cases hNone : session.pending = []
      · rw [if_pos hNone]
        exact hSound.queues hProc tasks resent
      · rw [if_neg hNone]
        exact hSound.queues hProc [] true

/- A run ends, and unlocks the row if it had it locked. -/
theorem Sound.ends
    (hSound : Sound w)
    {p : Nat}
    {row lock : _}
    (hPending :
      ({ w with row := row } : World).pending = w.pending)
    (hNoRow : row = none → w.row = none)
    (hHolder : ∀ token,
      row.bind Row.leaseHolder = some token →
        w.row.bind Row.leaseHolder = some token)
    (hRow : row = w.row ∨ (w.procs p).locks = true)
    (hLock :
      lock = if w.lock = some p then none else w.lock) :
    Sound
      { w.setProc p .idle with
        row := row
        lock := lock } := by
  apply Moves.sound p .idle _ hSound
  exact
    { procs := rfl
      queued := rfl
      sent := rfl
      refused := rfl
      pending := hPending
      noRow := hNoRow
      holder := hHolder
      row := by
        rcases hRow with hSame | hLocks
        · exact .inl hSame
        · exact .inr (fun q hq => hSound.only hLocks hq)
      lock := by
        constructor
        · exact nofun
        · intro hSame
          have hSame' : lock = some p := hSame
          rw [hLock] at hSame'
          by_cases hOwn : w.lock = some p
          · rw [if_pos hOwn] at hSame'
            cases hSame'
          · rw [if_neg hOwn] at hSame'
            exact absurd hSame' hOwn
      others := by
        intro q hq
        have hOther :
            (if w.lock = some p then none else w.lock) =
                some q ↔ w.lock = some q := by
          by_cases hOwn : w.lock = some p
          · rw [if_pos hOwn, hOwn]
            constructor
            · exact nofun
            · intro hSame
              exact absurd (Option.some.inj hSame).symm hq
          · rw [if_neg hOwn]
        rw [← hOther, ← hLock]
      next := Nat.le_refl _
      token := nofun
      knows := trivial }

theorem Sound.crash
    (hSound : Sound w)
    (p : Nat) :
    Sound (w.crash p) :=
  hSound.ends rfl (fun hNone => hNone) (fun _ hHolder => hHolder)
    (.inl rfl) rfl

--------
-- Commits and Sends
--------

variable {w w' : World}

/- The transaction commits the tasks that it queued. -/
theorem Sound.commits
    (hSound : Sound w)
    {p token : Nat}
    {session : Row}
    {asked : List Queued}
    {resent : Bool}
    (hProc : w.procs p = .working session token asked resent)
    {row : Row}
    (hPending : row.pending = session.pending)
    (hHolder : row.leaseHolder = some token) :
    Sound
      { w.setProc p (.committed row token resent) with
        row := some row
        lock := none
        queued := w.queued ++ asked } := by
  have hKnows := hSound.knows p
  rw [hProc] at hKnows
  rcases hKnows with ⟨_, hSession, hAsked⟩
  have hRow : row.pending = w.pending ++ asked :=
    hPending.trans hSession
  have hLocks : (w.procs p).locks = true := by
    rw [hProc]
    rfl
  have hLock := (hSound.locked p).mp hLocks
  have hToken : (w.procs p).token = some token := by
    rw [hProc]
    rfl
  have hProcs : ∀ q,
      (w.setProc p (.committed row token resent)).procs q =
        if q = p then .committed row token resent
        else w.procs q := fun _ => rfl
  have hTokens : ∀ q other,
      ((w.setProc p (.committed row token resent)).procs q).token =
          some other →
        (w.procs q).token = some other := by
    intro q other hOther
    rw [hProcs] at hOther
    by_cases hq : q = p
    · rw [if_pos hq] at hOther
      rw [hq, hToken]
      exact hOther
    · rw [if_neg hq] at hOther
      exact hOther
  constructor
  · have hStep : Deliveries.Step w.queue
        { w.queue with
          asked := w.queue.asked + asked.length
          left := w.queue.left ++
            List.range' w.queue.asked asked.length } :=
      .ask w.queue asked.length
    have hNext := hStep.sound hSound.delivers
    unfold queue at hNext ⊢
    dsimp only at hNext
    rw [← hAsked.positions, ← List.map_append, ← hRow,
      ← List.length_append] at hNext
    exact hNext
  · dsimp only
    rw [List.map_append, hSound.positions, hAsked.positions,
      List.length_append, List.range_eq_range',
      List.range_eq_range']
    have hJoin := List.range'_append_1 (s := 0)
      (m := w.queued.length) (n := asked.length)
    rw [Nat.zero_add] at hJoin
    exact hJoin
  · intro q hMem
    rcases List.mem_append.mp hMem with hOld | hNew
    · exact hSound.fits q hOld
    · exact hAsked.fits q hNew
  · intro q hMem
    exact List.mem_append_left _ (hSound.sentQueued q hMem)
  · intro q hMem
    have hMem' : q ∈ row.pending := hMem
    rw [hRow] at hMem'
    rcases List.mem_append.mp hMem' with hOld | hNew
    · exact List.mem_append_left _ (hSound.pendingQueued q hOld)
    · exact List.mem_append_right _ hNew
  · have hSorted : (row.pending.map Queued.position).Pairwise
        (· < ·) := by
      rw [hRow, List.map_append, hAsked.positions]
      refine List.pairwise_append.mpr ⟨hSound.sorted,
        List.pairwise_lt_range' _ Nat.one_pos, ?_⟩
      intro i hOld j hNew
      rcases List.mem_map.mp hOld with ⟨q, hMem, rfl⟩
      rw [List.mem_range'_1] at hNew
      exact Nat.lt_of_lt_of_le
        (hSound.position_lt (hSound.pendingQueued q hMem)) hNew.1
    exact hSorted
  · exact hSound.noneRefused
  · intro hNone
    cases hNone
  · intro q
    dsimp only
    rw [hProcs]
    by_cases hq : q = p
    · rw [if_pos hq]
      exact ⟨nofun, nofun⟩
    · rw [if_neg hq, hSound.only hLocks hq]
      exact ⟨nofun, nofun⟩
  · exact fun q other hOther =>
      hSound.tokens q other (hTokens q other hOther)
  · intro other hOther
    have hSame : row.leaseHolder = some other := hOther
    rw [hHolder] at hSame
    cases hSame
    exact hSound.tokens p token hToken
  · exact fun q q' other hOther hOther' =>
      hSound.apart q q' other (hTokens q other hOther)
        (hTokens q' other hOther')
  · intro q
    dsimp only
    rw [hProcs]
    by_cases hq : q = p
    · rw [if_pos hq]
      exact fun _ => rfl
    · rw [if_neg hq]
      apply (hSound.knows q).of_unlocked (hSound.only hLocks hq)
      -- the lease is this run's, and no other's
      intro other hOther hHeld
      have hSame : row.leaseHolder = some other := hHeld
      rw [hHolder] at hSame
      cases hSame
      exact absurd (hSound.apart q p token hOther hToken) hq

theorem Sound.commit
    (hSound : Sound w)
    (p read : Nat) :
    Sound (w.commit p read) := by
  unfold World.commit
  cases hProc : w.procs p with
  | idle => exact hSound
  | committed session token resent => exact hSound
  | sending session token left kept sent resent => exact hSound
  | working session token asked resent =>
      have hKnows := hSound.knows p
      rw [hProc] at hKnows
      have hHolder : session.leaseHolder = some token := hKnows.1
      cases hRow : w.row with
      | none => exact hSound.commits hProc rfl hHolder
      | some row =>
          have hKeep : session.keep token read =
              some (session.leased token read) := by
            unfold Row.keep
            rw [if_pos hHolder]
          simp only [hKeep]
          exact hSound.commits hProc rfl rfl

theorem Sound.refuse
    (hSound : Sound w)
    (p : Nat) :
    Sound (w.refuse p) := by
  unfold World.refuse
  cases hProc : w.procs p with
  | idle => exact hSound
  | committed session token resent => exact hSound
  | sending session token left kept sent resent => exact hSound
  | working session token asked resent =>
      have hLocks : (w.procs p).locks = true := by
        rw [hProc]
        rfl
      refine hSound.ends ?_ ?_ ?_ (.inr hLocks) ?_
      · unfold pending
        cases w.row with
        | none => rfl
        | some row => rfl
      · intro hNone
        rw [Option.map_eq_none_iff] at hNone
        exact hNone
      · intro other hOther
        cases hRow : w.row with
        | none =>
            rw [hRow] at hOther
            cases hOther
        | some row =>
            rw [hRow] at hOther
            cases hOther
      · rw [(hSound.locked p).mp hLocks, if_pos rfl]

theorem Sound.flush
    (hSound : Sound w)
    (p read : Nat) :
    Sound (w.flush p read) := by
  unfold World.flush
  cases hProc : w.procs p with
  | idle => exact hSound
  | working session token asked resent => exact hSound
  | sending session token left kept sent resent => exact hSound
  | committed session token resent =>
      cases hLock : w.lock with
      | some q => exact hSound
      | none =>
          cases hRow : w.row with
          | none => exact hSound
          | some row =>
              dsimp only
              by_cases hHolder : row.leaseHolder = some token
              · have hKeep : row.keep token read =
                    some (row.leased token read) := by
                  unfold Row.keep
                  rw [if_pos hHolder]
                have hHeld :
                    w.row.bind Row.leaseHolder = some token := by
                  rw [hRow]
                  exact hHolder
                have hKnows := hSound.knows p
                rw [hProc] at hKnows
                have hSame := hKnows hHeld
                simp only [hKeep]
                apply Moves.sound p (.sending (session.leased token read)
                    token session.pending [] false resent) _ hSound
                exact
                  { procs := rfl
                    queued := rfl
                    sent := rfl
                    refused := rfl
                    pending := rfl
                    noRow := fun hNone => hNone
                    holder := fun _ hOld => hOld
                    row := .inl rfl
                    lock := ⟨fun _ => rfl, fun _ => rfl⟩
                    others := by
                      intro q hq
                      rw [hLock]
                      constructor
                      · intro hOther
                        exact absurd (Option.some.inj hOther).symm
                          hq
                      · exact nofun
                    next := Nat.le_refl _
                    token := by
                      intro other hOther
                      left
                      rw [hProc]
                      exact hOther
                    knows := ⟨rfl, hHeld, hSame, [], hSame.symm,
                      nofun⟩ }
              · have hKeep : row.keep token read = none := by
                  unfold Row.keep
                  rw [if_neg hHolder]
                simp only [hKeep]
                apply hSound.setProc
                · rw [hProc]
                  rfl
                · exact nofun
                · trivial

/- What is before the next task was sent. -/
theorem Sound.earlier_sent
    (hSound : Sound w)
    {done left : List Queued}
    {task : Queued}
    (hSplit : w.pending = done ++ task :: left)
    (hDone : ∀ q ∈ done, q ∈ w.sent) :
    ∀ j < task.position, j ∈ w.queue.sent := by
  intro j hLess
  have hTask : task ∈ w.pending := by
    rw [hSplit]
    exact List.mem_append_right _ List.mem_cons_self
  have hQueued : j < w.queue.asked :=
    Nat.lt_trans hLess
      (hSound.position_lt (hSound.pendingQueued task hTask))
  rcases hSound.delivers.kept j hQueued with hSent | hLeft
  · exact hSent
  · rcases List.mem_map.mp hLeft with ⟨q, hMem, rfl⟩
    have hSorted := hSound.sorted
    rw [hSplit] at hMem
    rw [hSplit, List.map_append, List.map_cons,
      List.pairwise_append, List.pairwise_cons] at hSorted
    rcases List.mem_append.mp hMem with hOld | hRest
    · exact List.mem_map_of_mem (hDone q hOld)
    · exfalso
      rcases List.mem_cons.mp hRest with rfl | hLater
      · exact Nat.lt_irrefl _ hLess
      · exact Nat.lt_asymm hLess
          (hSorted.2.1.1 _ (List.mem_map_of_mem hLater))

/- The broker takes a task after all those before it. -/
theorem Sound.delivered
    (hSound : Sound w)
    {task : Queued}
    (hTask : task ∈ w.pending)
    (hEarlier : ∀ j < task.position, j ∈ w.queue.sent) :
    Sound { w with sent := w.sent ++ [task] } := by
  have hGrows : ∀ q ∈ w.sent, q ∈ w.sent ++ [task] :=
    fun q hMem => List.mem_append_left _ hMem
  constructor
  · have hStep : Deliveries.Step w.queue
        { w.queue with
          sent := w.queue.sent ++ [task.position] } :=
      .send w.queue task.position hEarlier
    have hNext := hStep.sound hSound.delivers
    unfold queue at hNext ⊢
    dsimp only at hNext ⊢
    rw [List.map_append]
    exact hNext
  · exact hSound.positions
  · exact hSound.fits
  · intro q hMem
    rcases List.mem_append.mp hMem with hOld | hNew
    · exact hSound.sentQueued q hOld
    · rw [List.mem_singleton] at hNew
      rw [hNew]
      exact hSound.pendingQueued task hTask
  · exact hSound.pendingQueued
  · exact hSound.sorted
  · exact hSound.noneRefused
  · exact hSound.noRow
  · exact hSound.locked
  · exact hSound.tokens
  · exact hSound.holder
  · exact hSound.apart
  · exact fun p => (hSound.knows p).of_row rfl rfl hGrows

theorem Sound.send
    (hSound : Sound w)
    (p : Nat)
    (accepted : Bool) :
    Sound (w.send p accepted) := by
  unfold World.send
  cases hProc : w.procs p with
  | idle => exact hSound
  | working session token asked resent => exact hSound
  | committed session token resent => exact hSound
  | sending session token left kept sent resent =>
      cases left with
      | nil => exact hSound
      | cons task left =>
          have hKnows := hSound.knows p
          rw [hProc] at hKnows
          rcases hKnows with
            ⟨hHolder, hHeld, hSession, done, hSplit, hDone⟩
          -- the task is kept, behind those that were
          have hKeeps : Sound
              (w.setProc p
                (.sending session token left (kept ++ [task]) sent
                  resent)) := by
            apply hSound.setProc
            · rw [hProc]
              rfl
            · rw [hProc]
              exact fun _ hToken => hToken
            · refine ⟨hHolder, hHeld, hSession, done, ?_, hDone⟩
              rw [hSplit, ← List.append_assoc, List.append_assoc
                (done ++ kept)]
              rfl
          dsimp only
          by_cases hKept : kept ≠ []
          · rw [if_pos hKept]
            exact hKeeps
          · rw [if_neg hKept]
            rw [not_not] at hKept
            rw [hKept, List.append_nil] at hSplit
            have hTask : task ∈ w.pending := by
              rw [hSplit]
              exact List.mem_append_right _ List.mem_cons_self
            rw [hSound.fits task (hSound.pendingQueued task hTask)]
            dsimp only
            by_cases hAccepted : accepted = true
            · rw [if_pos hAccepted]
              have hDelivered := hSound.delivered hTask
                (hSound.earlier_sent hSplit hDone)
              rw [hKept]
              apply hDelivered.setProc
              · dsimp only
                rw [hProc]
                rfl
              · dsimp only
                rw [hProc]
                exact fun _ hToken => hToken
              · refine ⟨hHolder, hHeld, hSession, done ++ [task],
                  ?_, ?_⟩
                · rw [List.append_nil, List.append_assoc]
                  exact hSplit
                · intro q hMem
                  rcases List.mem_append.mp hMem with hOld | hNew
                  · exact List.mem_append_left _ (hDone q hOld)
                  · exact List.mem_append_right _ hNew
            · rw [if_neg hAccepted]
              exact hKeeps

/- Tasks that were sent leave a row that no one holds. -/
theorem Sound.forgets
    (hSound : Sound w)
    (hLock : w.lock = none)
    {row : Row}
    (hRow : row.leaseHolder = none)
    (hSub : row.pending.Sublist w.pending)
    (hSent : ∀ q ∈ w.pending, q ∈ row.pending ∨ q ∈ w.sent) :
    Sound { w with row := some row } := by
  constructor
  · have hStep : Deliveries.Step w.queue
        { w.queue with
          left := row.pending.map Queued.position } := by
      apply Deliveries.Step.forget
      intro i hMem
      rcases List.mem_map.mp hMem with ⟨q, hPending, rfl⟩
      rcases hSent q hPending with hLeft | hOld
      · exact .inl (List.mem_map_of_mem hLeft)
      · exact .inr (List.mem_map_of_mem hOld)
    exact hStep.sound hSound.delivers
  · exact hSound.positions
  · exact hSound.fits
  · exact hSound.sentQueued
  · exact fun q hMem => hSound.pendingQueued q (hSub.subset hMem)
  · exact hSound.sorted.sublist (hSub.map _)
  · exact hSound.noneRefused
  · exact nofun
  · exact hSound.locked
  · exact hSound.tokens
  · intro token hToken
    have hNone : row.leaseHolder = some token := hToken
    rw [hRow] at hNone
    cases hNone
  · exact hSound.apart
  · intro p
    apply (hSound.knows p).of_unlocked (hSound.unlocked hLock p)
    intro token _ hToken
    have hNone : row.leaseHolder = some token := hToken
    rw [hRow] at hNone
    cases hNone

/- What was sent leaves the pending tasks, and the lease goes. -/
theorem Sound.finish
    (hSound : Sound w)
    (p : Nat) :
    Sound (w.finish p) := by
  unfold World.finish
  cases hProc : w.procs p with
  | idle => exact hSound
  | working session token asked resent => exact hSound
  | committed session token resent => exact hSound
  | sending session token left kept sent resent =>
      cases left with
      | cons task left => exact hSound
      | nil =>
          have hKnows := hSound.knows p
          rw [hProc] at hKnows
          rcases hKnows with
            ⟨hHolder, hHeld, hSession, done, hSplit, hDone⟩
          rw [List.append_nil] at hSplit
          have hLocks : (w.procs p).locks = true := by
            rw [hProc]
            rfl
          -- the lease is given up, and then the tasks leave
          have hEnded : Sound
              { w.setProc p .idle with
                row := some session.released
                lock := none } := by
            refine hSound.ends hSession nofun nofun (.inr hLocks) ?_
            rw [(hSound.locked p).mp hLocks, if_pos rfl]
          have hRelease : ∀ (row : Row),
              row.leaseHolder = session.leaseHolder →
              (row.keepReleased token).getD row =
                row.released := by
            intro row hRow
            unfold Row.keepReleased
            rw [if_pos (hRow.trans hHolder)]
            rfl
          dsimp only
          rw [hRelease]
          · apply hEnded.forgets rfl rfl
            · have hSub : kept.Sublist session.pending := by
                rw [hSession, hSplit]
                exact List.sublist_append_right done kept
              exact hSub
            · intro q hMem
              have hMem' : q ∈ session.pending := hMem
              rw [hSession, hSplit] at hMem'
              rcases List.mem_append.mp hMem' with hOld | hLeft
              · exact .inr (hDone q hOld)
              · exact .inl hLeft
          · rfl

/- The rest of the tasks is what is pending. -/
theorem Sound.interrupt
    (hSound : Sound w)
    (p : Nat) :
    Sound (w.interrupt p) := by
  unfold World.interrupt
  cases hProc : w.procs p with
  | idle => exact hSound
  | working session token asked resent => exact hSound
  | committed session token resent => exact hSound
  | sending session token left kept sent resent =>
      have hKnows := hSound.knows p
      rw [hProc] at hKnows
      rcases hKnows with ⟨hHolder, hHeld, hSession, _⟩
      have hLocks : (w.procs p).locks = true := by
        rw [hProc]
        rfl
      refine hSound.ends hSession nofun ?_ (.inr hLocks) ?_
      · intro other hOther
        have hSame : session.leaseHolder = some other := hOther
        rw [hHeld, ← hHolder]
        exact hSame
      · rw [(hSound.locked p).mp hLocks, if_pos rfl]

theorem Sound.step
    (hSound : Sound w)
    (a : Action) :
    Sound (w.step a) := by
  cases a with
  | tick seconds =>
      exact
        { delivers := hSound.delivers
          positions := hSound.positions
          fits := hSound.fits
          sentQueued := hSound.sentQueued
          pendingQueued := hSound.pendingQueued
          sorted := hSound.sorted
          noneRefused := hSound.noneRefused
          noRow := hSound.noRow
          locked := hSound.locked
          tokens := hSound.tokens
          holder := hSound.holder
          apart := hSound.apart
          knows := fun p =>
            (hSound.knows p).of_row rfl rfl
              (fun _ hMem => hMem) }
  | launch p tasks => exact hSound.launch p tasks
  | claim p read => exact hSound.claim p read
  | operate p tasks => exact hSound.operate p tasks
  | advance p tasks => exact hSound.advance p tasks
  | refuse p => exact hSound.refuse p
  | commit p read => exact hSound.commit p read
  | flush p read => exact hSound.flush p read
  | send p accepted => exact hSound.send p accepted
  | finish p => exact hSound.finish p
  | interrupt p => exact hSound.interrupt p
  | crash p => exact hSound.crash p

--------
-- What the Outbox Delivers
--------

/- Every queued task was sent, or is still pending. -/
def Kept (w : World) : Prop :=
  ∀ q ∈ w.queued, q ∈ w.sent ∨ q ∈ w.pending

/- A task is first sent after all that were queued before. -/
def InOrder (w : World) : Prop :=
  ∀ before q after,
    w.sent = before ++ q :: after → q ∉ before →
      ∀ q' ∈ w.queued, q'.position < q.position → q' ∈ before

/- Only what was sent or refused leaves the pending tasks. -/
def LeavesSent
    (w : World)
    (a : Action) : Prop :=
  ∀ q ∈ w.pending, q ∉ (w.step a).pending →
    q ∈ (w.step a).sent ∨ q ∈ (w.step a).refused

/- Nothing has changed but where a process is in its run. -/
structure Untouched
    (w : World)
    (p : Nat)
    (w' : World) : Prop where
  row : w'.row = w.row
  lock : w'.lock = w.lock
  queued : w'.queued = w.queued
  sent : w'.sent = w.sent
  refused : w'.refused = w.refused
  procs : ∀ q, q ≠ p → w'.procs q = w.procs q

/-
  A process that has taken the lease, and does not hold it
  any more, commits, sends and releases nothing.
-/
def Fenced
    (w : World)
    (a : Action) : Prop :=
  ∀ p token,
    a.process = some p →
      (w.procs p).token = some token →
      w.leaseHolder ≠ some token →
      w.Untouched p (w.step a)

variable {w w' : World}

theorem Sound.kept
    (hSound : Sound w) :
    Kept w := by
  intro q hMem
  rcases hSound.delivers.kept q.position
    (hSound.position_lt hMem) with hSent | hLeft
  · rcases List.mem_map.mp hSent with ⟨q', hMem', hSame⟩
    rw [← hSound.same_of_position (hSound.sentQueued q' hMem')
      hMem hSame]
    exact .inl hMem'
  · rcases List.mem_map.mp hLeft with ⟨q', hMem', hSame⟩
    rw [← hSound.same_of_position (hSound.pendingQueued q' hMem')
      hMem hSame]
    exact .inr hMem'

theorem Sound.inOrder
    (hSound : Sound w) :
    InOrder w := by
  intro before q after hSplit hFirst q' hMem' hLess
  have hQueued : ∀ q₂, q₂ ∈ before ∨ q₂ = q →
      q₂ ∈ w.queued := by
    intro q₂ hEither
    apply hSound.sentQueued
    rw [hSplit]
    rcases hEither with hMem | rfl
    · exact List.mem_append_left _ hMem
    · exact List.mem_append_right _ List.mem_cons_self
  have hPositions :
      w.queue.sent = before.map Queued.position ++
        q.position :: after.map Queued.position := by
    unfold queue
    rw [hSplit, List.map_append, List.map_cons]
  have hNot : q.position ∉ before.map Queued.position := by
    intro hMem
    rcases List.mem_map.mp hMem with ⟨q₂, hMem₂, hSame⟩
    rw [hSound.same_of_position (hQueued q₂ (.inl hMem₂))
      (hQueued q (.inr rfl)) hSame] at hMem₂
    exact hFirst hMem₂
  have hEarlier := hSound.delivers.ordered _ _ _ hPositions hNot
    q'.position hLess
  rcases List.mem_map.mp hEarlier with ⟨q₂, hMem₂, hSame⟩
  rw [← hSound.same_of_position (hQueued q₂ (.inl hMem₂)) hMem'
    hSame]
  exact hMem₂

/- What committed transactions queued is never taken back. -/
theorem queued_step
    (w : World)
    (a : Action) :
    ∃ asked, (w.step a).queued = w.queued ++ asked := by
  have hSame : ∀ w' : World, w'.queued = w.queued →
      ∃ asked, w'.queued = w.queued ++ asked :=
    fun w' hQueued => ⟨[], by rw [hQueued, List.append_nil]⟩
  cases a with
  | tick seconds => exact hSame _ rfl
  | launch p tasks =>
      apply hSame
      simp only [World.step]
      unfold World.launch
      split <;> rfl
  | claim p read =>
      apply hSame
      simp only [World.step]
      unfold World.claim
      dsimp only
      split
      · split_ifs <;> rfl
      · rfl
  | operate p tasks =>
      apply hSame
      simp only [World.step]
      unfold World.operate
      split <;> rfl
  | advance p tasks =>
      apply hSame
      simp only [World.step]
      unfold World.advance
      dsimp only
      split
      · split_ifs <;> rfl
      · rfl
  | refuse p =>
      apply hSame
      simp only [World.step]
      unfold World.refuse
      split <;> rfl
  | commit p read =>
      simp only [World.step]
      unfold World.commit
      dsimp only
      split
      · rename_i session token asked resent hProc
        split
        · exact ⟨asked, rfl⟩
        · split
          · exact hSame _ rfl
          · exact ⟨asked, rfl⟩
      · exact hSame _ rfl
  | flush p read =>
      apply hSame
      simp only [World.step]
      unfold World.flush
      dsimp only
      split
      · split <;> rfl
      · rfl
  | send p accepted =>
      apply hSame
      simp only [World.step]
      unfold World.send
      dsimp only
      split
      · split_ifs
        · rfl
        · split
          · rfl
          · rfl
        · split
          · rfl
          · rfl
      · rfl
  | finish p =>
      apply hSame
      simp only [World.step]
      unfold World.finish
      split <;> rfl
  | interrupt p =>
      apply hSame
      simp only [World.step]
      unfold World.interrupt
      split <;> rfl
  | crash p => exact hSame _ rfl

theorem Sound.leavesSent
    (hSound : Sound w)
    (a : Action) :
    LeavesSent w a := by
  intro q hMem hGone
  have hKept := (hSound.step a).kept
  rcases queued_step w a with ⟨asked, hQueued⟩
  rcases hKept q (by
    rw [hQueued]
    exact List.mem_append_left _ (hSound.pendingQueued q hMem))
    with hSent | hLeft
  · exact .inl hSent
  · exact absurd hLeft hGone

/- Only a process that is in no run begins one. -/
theorem launch_busy
    {p : Nat}
    (hBusy : w.procs p ≠ .idle)
    (tasks : List LabTask) :
    w.launch p tasks = w := by
  unfold launch
  split
  · rename_i hProc
    exact absurd hProc hBusy
  · rfl

theorem claim_busy
    {p : Nat}
    (hBusy : w.procs p ≠ .idle)
    (read : Nat) :
    w.claim p read = w := by
  unfold claim
  split
  · rename_i hProc
    exact absurd hProc hBusy
  · rfl

theorem Sound.fenced
    (hSound : Sound w)
    (a : Action) :
    Fenced w a := by
  intro p token hProcess hToken hLost
  have hKnows := hSound.knows p
  -- in its open transaction a process holds the lease
  have hHolds : (w.procs p).locks = true →
      (w.procs p).leaseHolder = some token → False := by
    intro hLocks hHolder
    apply hLost
    unfold leaseHolder
    rw [(hSound.locked p).mp hLocks]
    exact hHolder
  cases hProc : w.procs p with
  | idle =>
      rw [hProc] at hToken
      cases hToken
  | working session other asked resent =>
      rw [hProc] at hKnows hToken hHolds
      cases hToken
      exact (hHolds rfl hKnows.1).elim
  | sending session other left kept sent resent =>
      rw [hProc] at hKnows hToken hHolds
      cases hToken
      exact (hHolds rfl hKnows.1).elim
  | committed session other resent =>
      rw [hProc] at hToken
      cases hToken
      have hNoLock : w.lock ≠ some p := by
        intro hLock
        have hLocks := (hSound.locked p).mpr hLock
        rw [hProc] at hLocks
        cases hLocks
      have hIdle : ∀ q, q ≠ p →
          (w.setProc p .idle).procs q = w.procs q := by
        intro q hq
        rw [procs_setProc, if_neg hq]
      have hNothing : w.Untouched p w :=
        ⟨rfl, rfl, rfl, rfl, rfl, fun _ _ => rfl⟩
      cases a with
      | tick seconds => cases hProcess
      | launch q tasks =>
          cases hProcess
          rw [World.step, launch_busy (by rw [hProc]; exact nofun)]
          exact hNothing
      | claim q read =>
          cases hProcess
          rw [World.step, claim_busy (by rw [hProc]; exact nofun)]
          exact hNothing
      | operate q tasks =>
          cases hProcess
          simp only [World.step, World.operate, hProc]
          exact hNothing
      | advance q tasks =>
          cases hProcess
          simp only [World.step, World.advance, hProc]
          exact hNothing
      | refuse q =>
          cases hProcess
          simp only [World.step, World.refuse, hProc]
          exact hNothing
      | commit q read =>
          cases hProcess
          simp only [World.step, World.commit, hProc]
          exact hNothing
      | flush q read =>
          cases hProcess
          simp only [World.step, World.flush, hProc]
          cases hLock : w.lock with
          | some q => exact hNothing
          | none =>
              cases hRow : w.row with
              | none => exact hNothing
              | some row =>
                  have hOther :
                      row.leaseHolder ≠ some token := by
                    unfold leaseHolder at hLost
                    rw [hLock, hRow] at hLost
                    exact hLost
                  have hKeep : row.keep token read = none := by
                    unfold Row.keep
                    rw [if_neg hOther]
                  simp only [hKeep]
                  exact ⟨rfl, rfl, rfl, rfl, rfl, hIdle⟩
      | send q accepted =>
          cases hProcess
          simp only [World.step, World.send, hProc]
          exact hNothing
      | finish q =>
          cases hProcess
          simp only [World.step, World.finish, hProc]
          exact hNothing
      | interrupt q =>
          cases hProcess
          simp only [World.step, World.interrupt, hProc]
          exact hNothing
      | crash q =>
          cases hProcess
          simp only [World.step, World.crash, if_neg hNoLock]
          exact ⟨rfl, rfl, rfl, rfl, rfl, hIdle⟩

/-
  In every run of any number of processes, their operations,
  sweeps and deaths at any point: every task that a committed
  transaction queued was sent or is pending, in the order it
  was queued; only what was sent leaves the pending tasks; and
  a process that lost its lease commits, sends and releases
  nothing.
-/
theorem outbox_delivers
    (actions : List Action) :
    Kept (Runs.run step fresh actions) ∧
      InOrder (Runs.run step fresh actions) ∧
      ∀ a,
        LeavesSent (Runs.run step fresh actions) a ∧
          Fenced (Runs.run step fresh actions) a := by
  have hSound : Sound (Runs.run step fresh actions) :=
    Runs.run_invariant Sound (fun _ a hSound => hSound.step a)
      sound_fresh actions
  exact ⟨hSound.kept, hSound.inOrder, fun a =>
    ⟨hSound.leavesSent a, hSound.fenced a⟩⟩

end World

end Outbox

end LabSessions

end TrueNorth
