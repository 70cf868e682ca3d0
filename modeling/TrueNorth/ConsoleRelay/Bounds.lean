import TrueNorth.ConsoleRelay.ClientStream

/-
  What the console filter holds back: between two calls each
  of its buffers is short of a fixed bound, and a filter that
  has raised once raises for ever.

  Key definitions include:
    * `ViewOnlyFilter.Bounded`
    * `Console.Raises`
    * `Console.bounds`
-/

--------
-- A Client Buffer That Waits
--------

namespace TrueNorth

namespace ConsoleRelay

namespace ViewOnlyFilter

open BigEndian

/-
  What holds of a filter between two calls: each side holds
  less than its bound, and a dropped message whose rest is
  still to come has taken everything that was held.
-/
structure Bounded (f : ViewOnlyFilter) : Prop where
  buf : f.buf.length < maxFramed
  sbuf : f.sbuf.length ≤ maxServerBuf
  skip : 0 < f.skip → f.buf = []

private theorem thenAdvance_moves
    {f f' : ViewOnlyFilter}
    {out : Bytes}
    {units : List Bytes}
    {n taken : Nat}
    (hThen : thenAdvance f out n = .ok (f', units, taken)) :
    taken = n := by
  unfold thenAdvance at hThen
  split at hThen
  · cases hThen
  · cases hThen
    rfl

/- A message that is not complete yet is a short one. -/
theorem message_waits
    {f f' : ViewOnlyFilter}
    {out : List Bytes}
    (hMessage : message f = .ok (f', out, 0)) :
    f.buf.length < maxFramed := by
  have hForward :
      ∀ n,
        n ≤ 20 → 0 < n →
        .ok (forwardMessage f n) =
          (.ok (f', out, 0) : Except Fault Taken) →
        f.buf.length < maxFramed := by
    intro n hSmall hPos hEq
    unfold forwardMessage at hEq
    unfold maxFramed maxEncodings
    split at hEq
    · omega
    · cases hEq
      omega
  unfold message at hMessage
  split at hMessage
  · next hBuf =>
      rw [hBuf]
      decide
  · split at hMessage
    · exact hForward 20 (by omega) (by omega) hMessage
    split at hMessage
    · exact hForward 10 (by omega) (by omega) hMessage
    split at hMessage
    · unfold encodingsMessage at hMessage
      unfold maxFramed
      split at hMessage
      · omega
      · simp only [refuse] at hMessage
        split at hMessage
        · cases hMessage
        · next hCount =>
            split at hMessage
            · omega
            · -- a rewritten SetEncodings takes its header
              simp only [Except.ok.injEq, Prod.mk.injEq]
                at hMessage
              omega
    split at hMessage
    · cases hMessage
    split at hMessage
    · cases hMessage
    split at hMessage
    · unfold cutTextMessage at hMessage
      unfold maxFramed maxEncodings
      split at hMessage
      · omega
      · simp only [refuse] at hMessage
        split at hMessage <;> cases hMessage
    · cases hMessage

/- A filter asking for more holds an unfinished unit only. -/
theorem next_waits_short
    {f f' : ViewOnlyFilter}
    {out : List Bytes}
    (hNext : next f = .ok (f', out, 0)) :
    f.buf.length < maxFramed := by
  unfold next at hNext
  split at hNext
  · next hBuf =>
      rw [hBuf]
      decide
  · split at hNext
    · simp only [nextVersion, notReady, refuse] at hNext
      unfold maxFramed maxEncodings
      split at hNext
      · cases hNext
      split at hNext
      · omega
      split at hNext
      · cases hNext
      split at hNext
      · cases hNext
      · have hTaken := thenAdvance_moves hNext
        omega
    · unfold nextSecurity at hNext
      split at hNext
      · cases hNext
      split at hNext
      · cases hNext
      · have hTaken := thenAdvance_moves hNext
        omega
    · split at hNext
      · cases hNext
      split at hNext
      · next hShort =>
          unfold vncAuthResponse at hShort
          unfold maxFramed maxEncodings
          omega
      · cases hNext
    · split at hNext
      · cases hNext
      · have hTaken := thenAdvance_moves hNext
        omega
    · split at hNext
      · cases hNext
      · exact message_waits hNext

/- Where the client's loop stops, its side is bounded. -/
theorem turn_stops
    {f f' : ViewOnlyFilter}
    {out : List Bytes}
    (hTurn : turn f = .ok (f', out, false)) :
    f'.buf.length < maxFramed ∧
      (0 < f'.skip → f'.buf = []) := by
  unfold turn at hTurn
  split at hTurn
  · next hSkip =>
      simp only [Except.ok.injEq, Prod.mk.injEq,
        decide_eq_false_iff_not] at hTurn
      rcases hTurn with ⟨rfl, -, hLeft⟩
      -- more is to be skipped than the buffer held
      have hMin : min f.skip f.buf.length = f.buf.length := by
        omega
      have hEmpty : f.buf.drop (min f.skip f.buf.length) =
          [] := by
        rw [hMin]
        exact List.drop_length
      simp only [hEmpty]
      exact ⟨by decide, fun _ => trivial⟩
  · next hSkip =>
      split at hTurn
      · cases hTurn
      · next g units taken hUnit =>
          simp only [Except.ok.injEq, Prod.mk.injEq,
            decide_eq_false_iff_not, ne_eq, not_not] at hTurn
          rcases hTurn with ⟨rfl, -, rfl⟩
          have hShort := next_waits_short hUnit
          rcases next_waits hUnit with ⟨rfl, -⟩
          exact ⟨hShort, fun hPos => absurd hPos (by omega)⟩

--------
-- A Server Buffer That Only Shrinks
--------

open BigEndian

/- A server item is only ever taken off the buffer. -/
theorem ServerTakes.sbuf_le
    {f f' : ViewOnlyFilter}
    {again : Bool}
    (hTakes : ServerTakes f f' again) :
    f'.sbuf.length ≤ f.sbuf.length := by
  cases hTakes with
  | waits => exact Nat.le_refl _
  | version | challenge | result =>
      simp only [List.length_drop]
      omega
  | list count types _ hBuf =>
      simp only [hBuf, List.length_drop, List.length_cons]
      omega
  | init => exact Nat.zero_le _

theorem advanceServer_sbuf_le
    {f f' : ViewOnlyFilter}
    (hAdvance : advanceServer f = .ok f') :
    f'.sbuf.length ≤ f.sbuf.length :=
  advanceServer_invariant
    (fun g => g.sbuf.length ≤ f.sbuf.length)
    (fun _ _ _ hTakes hLe => Nat.le_trans hTakes.sbuf_le hLe)
    (Nat.le_refl _) hAdvance

theorem choose_sbuf
    (f : ViewOnlyFilter)
    (choice : UInt8) :
    (f.choose choice).sbuf = f.sbuf := by
  unfold choose
  split
  · rfl
  · split <;> rfl

theorem Takes.sbuf_le
    {f f' : ViewOnlyFilter}
    {out : List Bytes}
    {taken : Nat}
    (hTakes : Takes f (f', out, taken)) :
    f'.sbuf.length ≤ f.sbuf.length := by
  cases hTakes with
  | waits => exact Nat.le_refl _
  | version _ _ _ _ _ _ hAdvance =>
      have hLe := advanceServer_sbuf_le hAdvance
      exact hLe
  | security choice rest offered _ _ _ _ _ hAdvance =>
      have hLe := advanceServer_sbuf_le hAdvance
      simpa only [choose_sbuf] using hLe
  | auth => exact Nat.le_refl _
  | init _ _ _ _ _ _ hAdvance =>
      have hLe := advanceServer_sbuf_le hAdvance
      exact hLe
  | forwarded => exact Nat.le_refl _
  | encodings => exact Nat.le_refl _
  | dropped => exact Nat.le_refl _

theorem Turns.sbuf_le
    {f f' : ViewOnlyFilter}
    {out : List Bytes}
    {again : Bool}
    (hTurns : Turns f f' out again) :
    f'.sbuf.length ≤ f.sbuf.length := by
  cases hTurns with
  | skips => exact Nat.le_refl _
  | takes _ _ taken _ hTakes => exact hTakes.sbuf_le

/- Client bytes never make the server's side hold more. -/
theorem run_sbuf_le
    {f f' : ViewOnlyFilter}
    {data : Bytes}
    {out : List Bytes}
    (hRun : run f data = .ok (f', out)) :
    f'.sbuf.length ≤ f.sbuf.length :=
  @run_invariant
    (fun g _ => g.sbuf.length ≤ f.sbuf.length)
    (fun _ _ _ _ _ hTurns hLe => Nat.le_trans hTurns.sbuf_le hLe)
    f f' data [] out (Nat.le_refl _) hRun

--------
-- What a Call Leaves Behind
--------

open BigEndian

theorem fresh_bounded : fresh.Bounded :=
  ⟨by decide, by decide, fun _ => rfl⟩

/- The client's loop settles whatever it was given. -/
theorem Bounded.feed
    {f f' : ViewOnlyFilter}
    {data : Bytes}
    {out : List Bytes}
    (hBounded : f.Bounded)
    (hFeed : f.feed data = (f', .ok out)) :
    f'.Bounded := by
  have hRun := (feed_ok hFeed).2
  rcases run_settled hRun with ⟨g, last, hTurn⟩
  have hStops := turn_stops hTurn
  have hServer := Nat.le_trans (run_sbuf_le hRun)
    hBounded.sbuf
  exact ⟨hStops.1, hServer, hStops.2⟩

/- The server's side is checked, the client's not touched. -/
theorem Bounded.feedServer
    {f f' : ViewOnlyFilter}
    {data : Bytes}
    (hBounded : f.Bounded)
    (hFeed : f.feedServer data = (f', .ok ())) :
    f'.Bounded := by
  rcases (feedServer_ok hFeed).2 with
    ⟨_, rfl⟩ | ⟨hAdvance, hLength⟩
  · exact hBounded
  · have hSame := advanceServer_sameClient hAdvance
    constructor
    case buf =>
      rw [hSame.buf]
      exact hBounded.buf
    case sbuf => exact hLength
    case skip =>
      rw [hSame.buf, hSame.skip]
      exact hBounded.skip

end ViewOnlyFilter

end ConsoleRelay

end TrueNorth

--------
-- Bounds Over Every Run
--------

namespace TrueNorth

namespace ConsoleRelay

open BigEndian ViewOnlyFilter

namespace Console

/- The call an arrival makes raises a violation. -/
def Raises
    (c : Console) : Arrival → Prop
| .client data =>
    ∃ violation, (c.filter.feed data).2 = .error violation
| .server data =>
    ∃ violation,
      (c.filter.feedServer data).2 = .error violation

/- A call that raises kills, and forwards nothing. -/
theorem step_raises
    {c : Console}
    {arrival : Arrival}
    (hRaises : c.Raises arrival) :
    (c.step arrival).filter.dead = true ∧
      (c.step arrival).forwarded = c.forwarded := by
  cases arrival with
  | client data =>
      rcases hRaises with ⟨violation, hError⟩
      rcases hFeed : c.filter.feed data with ⟨f', answer⟩
      rw [hFeed] at hError
      subst hError
      simp only [step, hFeed]
      exact ⟨feed_error hFeed, trivial⟩
  | server data =>
      rcases hRaises with ⟨violation, hError⟩
      rcases hFeed : c.filter.feedServer data with
        ⟨f', answer⟩
      rw [hFeed] at hError
      subst hError
      simp only [step, hFeed]
      exact ⟨feedServer_error hFeed, trivial⟩

/- A call that does not raise keeps the bounds. -/
theorem step_bounded
    {c : Console}
    {arrival : Arrival}
    (hBounded : c.filter.Bounded)
    (hReturns : ¬ c.Raises arrival) :
    (c.step arrival).filter.Bounded := by
  cases arrival with
  | client data =>
      rcases hFeed : c.filter.feed data with ⟨f', answer⟩
      simp only [step, hFeed]
      cases answer with
      | error violation =>
          exact absurd ⟨violation, by rw [hFeed]⟩ hReturns
      | ok out => exact hBounded.feed hFeed
  | server data =>
      rcases hFeed : c.filter.feedServer data with
        ⟨f', answer⟩
      simp only [step, hFeed]
      cases answer with
      | error violation =>
          exact absurd ⟨violation, by rw [hFeed]⟩ hReturns
      | ok => exact hBounded.feedServer hFeed

/- A dead filter raises, whatever arrives. -/
theorem raises_of_dead
    {c : Console}
    (hDead : c.filter.dead = true)
    (arrival : Arrival) :
    c.Raises arrival := by
  cases arrival with
  | client data =>
      refine ⟨⟨closePolicy,
        "Input is not allowed on a view-only console"⟩, ?_⟩
      unfold feed
      rw [if_pos hDead]
  | server data =>
      refine ⟨⟨closePolicy,
        "Input is not allowed on a view-only console"⟩, ?_⟩
      unfold feedServer
      rw [if_pos hDead]

/- Nothing is forwarded past a dead filter. -/
theorem dead_forwards_nothing
    {c : Console}
    (hDead : c.filter.dead = true)
    (arrivals : List Arrival) :
    (Runs.run step c arrivals).forwarded = c.forwarded := by
  have hStep :
      ∀ (d : Console) (arrival : Arrival),
        d.filter.dead = true ∧ d.forwarded = c.forwarded →
        (d.step arrival).filter.dead = true ∧
          (d.step arrival).forwarded = c.forwarded := by
    intro d arrival hDead'
    have hRaised := step_raises
      (raises_of_dead hDead'.1 arrival)
    exact ⟨hRaised.1, hRaised.2.trans hDead'.2⟩
  exact (Runs.run_invariant _ hStep ⟨hDead, rfl⟩ arrivals).2

/- A live console is within its bounds, however it got here. -/
theorem run_bounded
    (arrivals : List Arrival) :
    (Runs.run step fresh arrivals).filter.dead = false →
      (Runs.run step fresh arrivals).filter.Bounded := by
  refine Runs.run_invariant
    (fun c : Console =>
      c.filter.dead = false → c.filter.Bounded)
    ?_ (fun _ => fresh_bounded) arrivals
  intro c arrival hLive hAlive
  have hReturns : ¬ c.Raises arrival := by
    intro hRaises
    rw [(step_raises hRaises).1] at hAlive
    cases hAlive
  refine step_bounded (hLive ?_) hReturns
  by_contra hDead
  exact hReturns (raises_of_dead (by simpa using hDead) _)

/-
  Over every sequence of calls from either side: a call that
  does not raise leaves both buffers within their bounds and
  nothing held while a dropped message is still coming in,
  and after a call that raises every later call raises and
  the hypervisor is sent nothing more.
-/
theorem bounds
    (arrivals : List Arrival)
    (arrival : Arrival) :
    (¬ (Runs.run step fresh arrivals).Raises arrival →
      ((Runs.run step fresh
        (arrivals ++ [arrival])).filter).Bounded) ∧
      ((Runs.run step fresh arrivals).Raises arrival →
        ∀ later,
          (∀ after,
            (Runs.run step fresh
              (arrivals ++ arrival :: later)).Raises after) ∧
            (Runs.run step fresh
              (arrivals ++ arrival :: later)).forwarded =
              (Runs.run step fresh arrivals).forwarded) := by
  rw [Runs.run_append]
  constructor
  · intro hReturns
    refine step_bounded (run_bounded arrivals ?_) hReturns
    by_contra hDead
    exact hReturns (raises_of_dead (by simpa using hDead) _)
  · intro hRaises later
    rw [Runs.run_append, Runs.run_cons]
    have hStep := step_raises hRaises
    constructor
    · intro after
      exact raises_of_dead (dead_run hStep.1 later) after
    · rw [dead_forwards_nothing hStep.1 later]
      exact hStep.2

end Console

end ConsoleRelay

end TrueNorth
