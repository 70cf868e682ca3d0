import TrueNorth.ConsoleRelay.RfbFilter

/-
  What one step of the console filter can do, on either
  side, and that neither loop ever stops for lack of turns.

  Main declarations:
    * `ViewOnlyFilter.ServerTakes`
    * `ViewOnlyFilter.advanceServer_invariant`
    * `ViewOnlyFilter.advanceServer_settled`
    * `ViewOnlyFilter.Takes`
    * `ViewOnlyFilter.run_invariant`
    * `ViewOnlyFilter.run_settled`
    * `ViewOnlyFilter.feed_ok`
    * `ViewOnlyFilter.feedServer_ok`
-/

--------
-- What a Server Item Can Do
--------

namespace TrueNorth

namespace ConsoleRelay

namespace ViewOnlyFilter

open BigEndian

/-
  The server items, each with what the loop has checked when
  it takes them.  A turn that waits leaves the filter as it
  was.
-/
inductive ServerTakes
    (f : ViewOnlyFilter) : ViewOnlyFilter → Bool → Prop where
| waits : ServerTakes f f false
| version
    (hState : f.sstate = .version)
    (hLength : 12 ≤ f.sbuf.length)
    (hVersion : f.sbuf.take 12 ∈ versions) :
    ServerTakes f
      { f with
        sver := minorVersion (f.sbuf.take 12)
        sbuf := f.sbuf.drop 12
        sstate := .versionWait } true
| list
    (count : UInt8)
    (types : Bytes)
    (hState : f.sstate = .list)
    (hBuf : f.sbuf = count :: types)
    (hLength : count.toNat ≤ types.length) :
    ServerTakes f
      { f with
        offered := some (types.take count.toNat)
        sbuf := types.drop count.toNat
        sstate := .choiceWait } true
| challenge
    (hState : f.sstate = .challenge)
    (hLength : vncAuthResponse ≤ f.sbuf.length) :
    ServerTakes f
      { f with
        sbuf := f.sbuf.drop vncAuthResponse
        challengeSeen := true
        sstate := .result } true
| result
    (hState : f.sstate = .result)
    (hLength : 4 ≤ f.sbuf.length) :
    ServerTakes f
      { f with
        sbuf := f.sbuf.drop 4
        securityDone := true
        sstate := .initWait } true
| init
    (hState : f.sstate = .init) :
    ServerTakes f
      { f with
        serverinitSeen := true
        sstate := .done
        sbuf := [] } false

theorem serverItem_takes
    {f f' : ViewOnlyFilter}
    {again : Bool}
    (hItem : serverItem f = .ok (f', again)) :
    ServerTakes f f' again := by
  cases hState : f.sstate with
  | version =>
      simp only [serverItem, hState, refuse] at hItem
      split at hItem
      · cases hItem
        exact .waits
      · next hLength =>
          split at hItem
          · cases hItem
          · next hVersion =>
              cases hItem
              exact .version hState (by omega)
                (by simpa using hVersion)
  | list =>
      simp only [serverItem, hState, refuse] at hItem
      split at hItem
      · cases hItem
        exact .waits
      · next count types hBuf =>
          split at hItem
          · cases hItem
          · split at hItem
            · cases hItem
              exact .waits
            · next hLength =>
                cases hItem
                exact .list count types hState hBuf
                  (by omega)
  | challenge =>
      simp only [serverItem, hState] at hItem
      split at hItem
      · cases hItem
        exact .waits
      · next hLength =>
          cases hItem
          exact .challenge hState (by omega)
  | result =>
      simp only [serverItem, hState, refuse] at hItem
      split at hItem
      · cases hItem
        exact .waits
      · next hLength =>
          split at hItem
          · cases hItem
          · cases hItem
            exact .result hState (by omega)
  | init =>
      simp only [serverItem, hState, refuse] at hItem
      split at hItem
      · cases hItem
        exact .waits
      · split at hItem
        · cases hItem
        · split at hItem
          · cases hItem
            exact .waits
          · cases hItem
            exact .init hState
  | versionWait =>
      simp only [serverItem, hState] at hItem
      cases hItem
      exact .waits
  | choiceWait =>
      simp only [serverItem, hState] at hItem
      cases hItem
      exact .waits
  | initWait =>
      simp only [serverItem, hState] at hItem
      cases hItem
      exact .waits
  | done =>
      simp only [serverItem, hState] at hItem
      cases hItem
      exact .waits

/- What every server item preserves, the loop preserves. -/
theorem serverLoop_invariant
    (Inv : ViewOnlyFilter → Prop)
    (hTakes : ∀ f f' again,
      ServerTakes f f' again → Inv f → Inv f')
    {turns : Nat}
    {f f' : ViewOnlyFilter}
    (hStart : Inv f)
    (hLoop : serverLoop turns f = .ok f') :
    Inv f' := by
  induction turns generalizing f with
  | zero =>
      cases hLoop
      exact hStart
  | succ turns ih =>
      rw [serverLoop] at hLoop
      split at hLoop
      · cases hLoop
      · next g hItem =>
          cases hLoop
          exact hTakes f f' _ (serverItem_takes hItem) hStart
      · next g hItem =>
          exact ih
            (hTakes f g _ (serverItem_takes hItem) hStart)
            hLoop

theorem advanceServer_invariant
    (Inv : ViewOnlyFilter → Prop)
    (hTakes : ∀ f f' again,
      ServerTakes f f' again → Inv f → Inv f')
    {f f' : ViewOnlyFilter}
    (hStart : Inv f)
    (hAdvance : advanceServer f = .ok f') :
    Inv f' :=
  serverLoop_invariant Inv hTakes hStart hAdvance

/- A turn that goes round again moves the server on. -/
theorem ServerTakes.rank
    {f f' : ViewOnlyFilter}
    {again : Bool}
    (hTakes : ServerTakes f f' again)
    (hAgain : again = true) :
    f'.sstate.rank = f.sstate.rank + 1 := by
  cases hTakes with
  | waits => cases hAgain
  | version hState => simp [hState, ServerState.rank]
  | list count types hState => simp [hState, ServerState.rank]
  | challenge hState => simp [hState, ServerState.rank]
  | result hState => simp [hState, ServerState.rank]
  | init => cases hAgain

/- A turn that stops would stop again. -/
theorem ServerTakes.settled
    {f f' : ViewOnlyFilter}
    (hItem : serverItem f = .ok (f', false)) :
    serverItem f' = .ok (f', false) := by
  cases serverItem_takes hItem with
  | waits => exact hItem
  | init => rfl

private theorem rank_le
    (s : ServerState) :
    s.rank ≤ 8 := by
  cases s <;> simp [ServerState.rank]

/-
  The loop ends because no further item can be taken, never
  because its turns ran out.
-/
theorem advanceServer_settled
    {f f' : ViewOnlyFilter}
    (hAdvance : advanceServer f = .ok f') :
    serverItem f' = .ok (f', false) := by
  have hLoop :
      ∀ turns (f : ViewOnlyFilter),
        8 < turns + f.sstate.rank →
          serverLoop turns f = .ok f' →
          serverItem f' = .ok (f', false) := by
    intro turns
    induction turns with
    | zero =>
        intro f hTurns
        have hRank := rank_le f.sstate
        omega
    | succ turns ih =>
        intro f hTurns hLoop
        rw [serverLoop] at hLoop
        split at hLoop
        · cases hLoop
        · next g hItem =>
            cases hLoop
            exact ServerTakes.settled hItem
        · next g hItem =>
            refine ih g ?_ hLoop
            have hRank :=
              (serverItem_takes hItem).rank rfl
            omega
  exact hLoop 9 f (by omega) hAdvance

/- The client's side, which no server item changes. -/
structure SameClient
    (f f' : ViewOnlyFilter) : Prop where
  buf : f'.buf = f.buf
  state : f'.state = f.state
  skip : f'.skip = f.skip
  dead : f'.dead = f.dead
  dropped : f'.dropped = f.dropped
  cver : f'.cver = f.cver
  choice : f'.choice = f.choice

theorem ServerTakes.sameClient
    {f g g' : ViewOnlyFilter}
    {again : Bool}
    (hTakes : ServerTakes g g' again)
    (hSame : SameClient f g) :
    SameClient f g' := by
  rcases hSame with ⟨hBuf, hState, hSkip, hDead, hDropped,
    hCver, hChoice⟩
  cases hTakes <;>
    exact ⟨hBuf, hState, hSkip, hDead, hDropped, hCver,
      hChoice⟩

theorem advanceServer_sameClient
    {f f' : ViewOnlyFilter}
    (hAdvance : advanceServer f = .ok f') :
    SameClient f f' :=
  advanceServer_invariant (SameClient f)
    (fun _ _ _ hTakes hSame => hTakes.sameClient hSame)
    ⟨rfl, rfl, rfl, rfl, rfl, rfl, rfl⟩ hAdvance

--------
-- What a Client Unit Can Do
--------

open BigEndian

/-
  The units `_next` takes off the head of the buffer, each
  with what has been checked when it does.
-/
inductive Takes (f : ViewOnlyFilter) : Taken → Prop where
| waits : Takes f (f, [], 0)
| version
    (f' : ViewOnlyFilter)
    (hState : f.state = .version)
    (hServer : 1 ≤ f.sstate.rank)
    (hLength : 12 ≤ f.buf.length)
    (hVersion : f.buf.take 12 ∈ versions)
    (hMinor : minorVersion (f.buf.take 12) ≤ f.sver)
    (hAdvance :
      advanceServer
        { f with
          cver := minorVersion (f.buf.take 12)
          sstate := .list
          buf := f.buf.drop 12
          state := .security } = .ok f') :
    Takes f (f', [f.buf.take 12], 12)
| security
    (choice : UInt8)
    (rest : Bytes)
    (offered : List UInt8)
    (f' : ViewOnlyFilter)
    (hState : f.state = .security)
    (hBuf : f.buf = choice :: rest)
    (hOffered : f.offered = some offered)
    (hChoosable : choosable offered choice = true)
    (hAdvance :
      advanceServer
        { f.choose choice with
          buf := rest
          state :=
            if choice = securityVnc then .auth
            else .init } = .ok f') :
    Takes f (f', [[choice]], 1)
| auth
    (hState : f.state = .auth)
    (hChallenge : f.challengeSeen = true)
    (hLength : vncAuthResponse ≤ f.buf.length) :
    Takes f
      ({ f with
          buf := f.buf.drop vncAuthResponse
          state := .init },
        [f.buf.take vncAuthResponse], vncAuthResponse)
| init
    (shared : UInt8)
    (rest : Bytes)
    (f' : ViewOnlyFilter)
    (hState : f.state = .init)
    (hBuf : f.buf = shared :: rest)
    (hDone : f.securityDone = true)
    (hAdvance :
      advanceServer
        { f with
          buf := rest
          state := .messages
          sstate := .init } = .ok f') :
    Takes f (f', [[1]], 1)
| forwarded
    (kind : UInt8)
    (rest : Bytes)
    (n : Nat)
    (hState : f.state = .messages)
    (hReady : f.serverinitSeen = true)
    (hBuf : f.buf = kind :: rest)
    (hKind : kind = 0 ∧ n = 20 ∨ kind = 3 ∧ n = 10)
    (hLength : n ≤ f.buf.length) :
    Takes f
      ({ f with buf := f.buf.drop n }, [f.buf.take n], n)
| encodings
    (rest : Bytes)
    (hState : f.state = .messages)
    (hReady : f.serverinitSeen = true)
    (hBuf : f.buf = 2 :: rest)
    (hCount : natAt 2 2 f.buf ≤ maxEncodings)
    (hLength : 4 + 4 * natAt 2 2 f.buf ≤ f.buf.length) :
    Takes f
      ({ f with
          buf := f.buf.drop (4 + 4 * natAt 2 2 f.buf) },
        [setEncodings
          ((ints32 (natAt 2 2 f.buf) (f.buf.drop 4)).filter
            (fun code => !stripped code))],
        4 + 4 * natAt 2 2 f.buf)
| dropped
    (n : Nat)
    (hState : f.state = .messages)
    (hReady : f.serverinitSeen = true)
    (hLength : 0 < n) :
    Takes f (dropMessage f n)

private theorem error_ne_ok
    {ε α : Type}
    {e : ε}
    {a : α}
    {P : Prop}
    (h : Except.error e = .ok a) :
    P := by
  cases h

private theorem thenAdvance_takes
    {f : ViewOnlyFilter}
    {out : Bytes}
    {n : Nat}
    {taken : Taken}
    (hThen : thenAdvance f out n = .ok taken) :
    ∃ f',
      advanceServer f = .ok f' ∧ taken = (f', [out], n) := by
  unfold thenAdvance at hThen
  split at hThen
  · cases hThen
  · next f' hAdvance =>
      cases hThen
      exact ⟨f', hAdvance, rfl⟩

theorem nextVersion_takes
    {f : ViewOnlyFilter}
    {taken : Taken}
    (hState : f.state = .version)
    (hNext : nextVersion f = .ok taken) :
    Takes f taken := by
  simp only [nextVersion, notReady, refuse] at hNext
  split at hNext
  · cases hNext
  · next hServer =>
      split at hNext
      · cases hNext
        exact .waits
      · next hLength =>
          split at hNext
          · cases hNext
          · next hVersion =>
              split at hNext
              · cases hNext
              · next hMinor =>
                  rcases thenAdvance_takes hNext with
                    ⟨f', hAdvance, rfl⟩
                  refine .version f' hState ?_ ?_ ?_ ?_
                    hAdvance
                  · have hWait :
                        ServerState.versionWait.rank = 1 :=
                      rfl
                    omega
                  · omega
                  · simpa using hVersion
                  · simpa using hMinor

theorem nextSecurity_takes
    {f : ViewOnlyFilter}
    {choice : UInt8}
    {rest : Bytes}
    {taken : Taken}
    (hState : f.state = .security)
    (hBuf : f.buf = choice :: rest)
    (hNext : nextSecurity f choice = .ok taken) :
    Takes f taken := by
  have hChoose : (f.choose choice).buf = choice :: rest := by
    rw [← hBuf]
    unfold choose
    split
    · rfl
    · split <;> rfl
  unfold nextSecurity at hNext
  split at hNext
  · exact error_ne_ok hNext
  · next offered hOffered =>
      split at hNext
      · exact error_ne_ok hNext
      · next hChoosable =>
          simp only [pass, hChoose, List.drop_succ_cons,
            List.drop_zero, List.take_succ_cons,
            List.take_zero] at hNext
          rcases thenAdvance_takes hNext with
            ⟨f', hAdvance, rfl⟩
          exact .security choice rest offered f' hState hBuf
            hOffered (by simpa using hChoosable) hAdvance

theorem message_takes
    {f : ViewOnlyFilter}
    {taken : Taken}
    (hState : f.state = .messages)
    (hReady : f.serverinitSeen = true)
    (hMessage : message f = .ok taken) :
    Takes f taken := by
  have hForward :
      ∀ kind rest n,
        f.buf = kind :: rest →
        (kind = 0 ∧ n = 20 ∨ kind = 3 ∧ n = 10) →
        .ok (forwardMessage f n) =
          (.ok taken : Except Fault Taken) →
        Takes f taken := by
    intro kind rest n hBuf hKind hEq
    cases hEq
    unfold forwardMessage
    split
    · exact .waits
    · next hLength =>
        exact .forwarded kind rest n hState hReady hBuf hKind
          (by omega)
  unfold message at hMessage
  split at hMessage
  · cases hMessage
    exact .waits
  · next kind rest hBuf =>
      split at hMessage
      · next hKind =>
          exact hForward kind rest 20 hBuf
            (.inl ⟨hKind, rfl⟩) hMessage
      split at hMessage
      · next hKind =>
          exact hForward kind rest 10 hBuf
            (.inr ⟨hKind, rfl⟩) hMessage
      split at hMessage
      · next hKind =>
          unfold encodingsMessage at hMessage
          split at hMessage
          · cases hMessage
            exact .waits
          · simp only at hMessage
            split at hMessage
            · exact error_ne_ok hMessage
            · next hCount =>
                split at hMessage
                · cases hMessage
                  exact .waits
                · next hLength =>
                    cases hMessage
                    exact .encodings rest hState hReady
                      (hKind ▸ hBuf) (by omega) (by omega)
      split at hMessage
      · cases hMessage
        exact .dropped 8 hState hReady (by omega)
      split at hMessage
      · cases hMessage
        exact .dropped 6 hState hReady (by omega)
      split at hMessage
      · unfold cutTextMessage at hMessage
        split at hMessage
        · cases hMessage
          exact .waits
        · simp only at hMessage
          split at hMessage
          · exact error_ne_ok hMessage
          · cases hMessage
            exact .dropped _ hState hReady (by omega)
      · exact error_ne_ok hMessage

theorem next_takes
    {f : ViewOnlyFilter}
    {taken : Taken}
    (hNext : next f = .ok taken) :
    Takes f taken := by
  unfold next at hNext
  split at hNext
  · cases hNext
    exact .waits
  · next head rest hBuf =>
      split at hNext
      · next hState => exact nextVersion_takes hState hNext
      · next hState =>
          exact nextSecurity_takes hState hBuf hNext
      · next hState =>
          split at hNext
          · exact error_ne_ok hNext
          · next hChallenge =>
              split at hNext
              · cases hNext
                exact .waits
              · next hLength =>
                  cases hNext
                  exact .auth hState
                    (by simpa using hChallenge) (by omega)
      · next hState =>
          split at hNext
          · exact error_ne_ok hNext
          · next hDone =>
              rcases thenAdvance_takes hNext with
                ⟨f', hAdvance, rfl⟩
              exact .init head rest f' hState hBuf
                (by simpa using hDone) hAdvance
      · next hState =>
          split at hNext
          · exact error_ne_ok hNext
          · next hReady =>
              exact message_takes hState
                (by simpa using hReady) hNext

--------
-- Whole Runs of the Client's Loop
--------

open BigEndian

/-
  A turn either discards bytes of a dropped message or takes
  one unit.
-/
inductive Turns
    (f : ViewOnlyFilter) :
    ViewOnlyFilter → List Bytes → Bool → Prop where
| skips
    (hSkip : f.skip ≠ 0) :
    Turns f
      { f with
        buf := f.buf.drop (min f.skip f.buf.length)
        skip := f.skip - min f.skip f.buf.length }
      [] (f.skip - min f.skip f.buf.length = 0)
| takes
    (f' : ViewOnlyFilter)
    (out : List Bytes)
    (taken : Nat)
    (hSkip : f.skip = 0)
    (hTakes : Takes f (f', out, taken)) :
    Turns f f' out (taken ≠ 0)

theorem turn_turns
    {f f' : ViewOnlyFilter}
    {out : List Bytes}
    {again : Bool}
    (hTurn : turn f = .ok (f', out, again)) :
    Turns f f' out again := by
  unfold turn at hTurn
  split at hTurn
  · next hSkip =>
      cases hTurn
      exact .skips hSkip
  · next hSkip =>
      split at hTurn
      · cases hTurn
      · next g o taken hNext =>
          cases hTurn
          exact .takes f' out taken (by simpa using hSkip)
            (next_takes hNext)

/-
  What every turn preserves, of the filter and of what has
  been put out so far, the loop preserves.
-/
theorem clientLoop_invariant
    {Inv : ViewOnlyFilter → List Bytes → Prop}
    (hTurns : ∀ f f' done out again,
      Turns f f' out again →
        Inv f done → Inv f' (done ++ out))
    {turns : Nat}
    {f f' : ViewOnlyFilter}
    {done out : List Bytes}
    (hStart : Inv f done)
    (hLoop : clientLoop turns f = .ok (f', out)) :
    Inv f' (done ++ out) := by
  induction turns generalizing f done out with
  | zero =>
      cases hLoop
      simpa using hStart
  | succ turns ih =>
      rw [clientLoop] at hLoop
      split at hLoop
      · cases hLoop
      · next g o hTurn =>
          cases hLoop
          exact hTurns f f' done out _ (turn_turns hTurn)
            hStart
      · next g o hTurn =>
          split at hLoop
          · cases hLoop
          · next g' rest hRest =>
              cases hLoop
              rw [← List.append_assoc]
              exact ih
                (hTurns f g done o _ (turn_turns hTurn)
                  hStart)
                hRest

theorem run_invariant
    {Inv : ViewOnlyFilter → List Bytes → Prop}
    (hTurns : ∀ f f' done out again,
      Turns f f' out again →
        Inv f done → Inv f' (done ++ out))
    {f f' : ViewOnlyFilter}
    {data : Bytes}
    {done out : List Bytes}
    (hStart : Inv { f with buf := f.buf ++ data } done)
    (hRun : run f data = .ok (f', out)) :
    Inv f' (done ++ out) :=
  clientLoop_invariant hTurns hStart hRun

/- Units taken shorten the buffer, or leave it to the skip. -/
theorem Takes.progress
    {f f' : ViewOnlyFilter}
    {out : List Bytes}
    {taken : Nat}
    (hTakes : Takes f (f', out, taken))
    (hTaken : taken ≠ 0) :
    (f'.buf.length < f.buf.length ∧ f'.skip = f.skip) ∨
      (f'.buf = f.buf ∧ f'.skip ≠ 0) := by
  cases hTakes with
  | waits => exact absurd rfl hTaken
  | version _ _ _ hLength _ _ hAdvance =>
      have hSame := advanceServer_sameClient hAdvance
      left
      refine ⟨?_, hSame.skip⟩
      rw [hSame.buf, List.length_drop]
      omega
  | security choice rest _ _ _ hBuf _ _ hAdvance =>
      have hSame := advanceServer_sameClient hAdvance
      have hSkip : (f.choose choice).skip = f.skip := by
        unfold choose
        split
        · rfl
        · split <;> rfl
      left
      refine ⟨?_, hSame.skip.trans hSkip⟩
      rw [hSame.buf, hBuf, List.length_cons]
      exact Nat.lt_succ_self _
  | auth _ _ hLength =>
      left
      refine ⟨?_, rfl⟩
      rw [List.length_drop]
      unfold vncAuthResponse at hLength ⊢
      omega
  | init shared rest _ _ hBuf _ hAdvance =>
      have hSame := advanceServer_sameClient hAdvance
      left
      refine ⟨?_, hSame.skip⟩
      rw [hSame.buf, hBuf, List.length_cons]
      exact Nat.lt_succ_self _
  | forwarded _ _ _ _ _ hKind hLength =>
      left
      refine ⟨?_, rfl⟩
      rw [List.length_drop]
      omega
  | encodings _ _ _ _ _ hLength =>
      left
      refine ⟨?_, rfl⟩
      rw [List.length_drop]
      omega
  | dropped n _ _ hLength =>
      right
      exact ⟨rfl, Nat.pos_iff_ne_zero.mp hLength⟩

theorem Turns.work_lt
    {f f' : ViewOnlyFilter}
    {out : List Bytes}
    {again : Bool}
    (hTurns : Turns f f' out again)
    (hAgain : again = true) :
    f'.work < f.work := by
  unfold work
  cases hTurns with
  | skips hSkip =>
      have hDone :
          f.skip - min f.skip f.buf.length = 0 := by
        simpa using hAgain
      simp only [List.length_drop, hSkip, if_false]
      split <;> omega
  | takes _ _ taken hSkip hTakes =>
      have hTaken : taken ≠ 0 := by simpa using hAgain
      rcases hTakes.progress hTaken with
        ⟨hBuf, hSame⟩ | ⟨hBuf, hLeft⟩
      · rw [hSame, hSkip]
        simp only [if_true]
        omega
      · rw [hBuf, hSkip, if_neg hLeft]
        simp only [if_true]
        omega

/-
  `_run` ends because the buffer holds no whole unit, never
  because its turns ran out.
-/
theorem run_settled
    {f f' : ViewOnlyFilter}
    {data : Bytes}
    {out : List Bytes}
    (hRun : run f data = .ok (f', out)) :
    ∃ g last, turn g = .ok (f', last, false) := by
  have hLoop :
      ∀ turns (f : ViewOnlyFilter) out,
        f.work < turns →
          clientLoop turns f = .ok (f', out) →
          ∃ g last, turn g = .ok (f', last, false) := by
    intro turns
    induction turns with
    | zero =>
        intro f out hTurns
        omega
    | succ turns ih =>
        intro f out hTurns hLoop
        rw [clientLoop] at hLoop
        split at hLoop
        · cases hLoop
        · next g last hTurn =>
            cases hLoop
            exact ⟨f, out, hTurn⟩
        · next g last hTurn =>
            split at hLoop
            · cases hLoop
            · next g' rest hRest =>
                cases hLoop
                have hLess := (turn_turns hTurn).work_lt rfl
                exact ih g rest (by omega) hRest
  exact hLoop _ _ out (Nat.lt_succ_self _) hRun

--------
-- What a Call Can Do
--------

open BigEndian

/- Only a live filter answers, with what `_run` made. -/
theorem feed_ok
    {f f' : ViewOnlyFilter}
    {data : Bytes}
    {out : List Bytes}
    (hFeed : f.feed data = (f', .ok out)) :
    f.dead = false ∧ run f data = .ok (f', out) := by
  unfold feed at hFeed
  split at hFeed
  · cases hFeed
  · next hDead =>
      split at hFeed
      · cases hFeed
      · next g units hRun =>
          cases hFeed
          exact ⟨by simpa using hDead, hRun⟩

/- A call that raises leaves the filter dead. -/
theorem feed_error
    {f f' : ViewOnlyFilter}
    {data : Bytes}
    {violation : Violation}
    (hFeed : f.feed data = (f', .error violation)) :
    f'.dead = true := by
  unfold feed at hFeed
  split at hFeed
  · next hDead =>
      cases hFeed
      exact hDead
  · split at hFeed
    · cases hFeed
      rfl
    · cases hFeed

theorem feedServer_ok
    {f f' : ViewOnlyFilter}
    {data : Bytes}
    (hFeed : f.feedServer data = (f', .ok ())) :
    f.dead = false ∧
      ((f.sstate = .done ∧ f' = f) ∨
        (advanceServer { f with sbuf := f.sbuf ++ data } =
            .ok f' ∧
          f'.sbuf.length ≤ maxServerBuf)) := by
  unfold feedServer at hFeed
  split at hFeed
  · cases hFeed
  · next hDead =>
      refine ⟨by simpa using hDead, ?_⟩
      split at hFeed
      · next hDone =>
          cases hFeed
          exact .inl ⟨hDone, rfl⟩
      · split at hFeed
        · cases hFeed
        · next g hAdvance =>
            split at hFeed
            · cases hFeed
            · next hLength =>
                cases hFeed
                exact .inr ⟨hAdvance, by omega⟩

theorem feedServer_error
    {f f' : ViewOnlyFilter}
    {data : Bytes}
    {violation : Violation}
    (hFeed : f.feedServer data = (f', .error violation)) :
    f'.dead = true := by
  unfold feedServer at hFeed
  split at hFeed
  · next hDead =>
      cases hFeed
      exact hDead
  · split at hFeed
    · cases hFeed
    · split at hFeed
      · cases hFeed
        rfl
      · split at hFeed
        · cases hFeed
          rfl
        · cases hFeed

end ViewOnlyFilter

end ConsoleRelay

end TrueNorth
