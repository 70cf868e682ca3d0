import TrueNorth.Lib.Runs
import TrueNorth.ConsoleRelay.ClientGrammar

/-
  A view-only console over any interleaving of client and
  server bytes: what the filter lets through is, at every
  moment, a permitted client stream.

  Key definitions include:
    * `Console`
    * `Console.step`
    * `Heard`
    * `InStep`
    * `Console.Vouched`
    * `Console.forwarded_permitted`
-/

--------
-- Consoles
--------

namespace TrueNorth

namespace ConsoleRelay

open BigEndian Framing

/-
  The filter, the units its calls have returned, and the
  server bytes of the calls that did not raise.
-/
structure Console where
  filter : ViewOnlyFilter
  forwarded : List Bytes
  served : Bytes

/- Bytes arriving from either side, cut anywhere. -/
inductive Arrival where
| client (data : Bytes)
| server (data : Bytes)

namespace Console

def fresh : Console :=
  { filter := .fresh
    forwarded := []
    served := [] }

def step
    (c : Console) : Arrival → Console
| .client data =>
    match c.filter.feed data with
    | (f', .error _) => { c with filter := f' }
    | (f', .ok out) =>
        { c with
          filter := f'
          forwarded := c.forwarded ++ out }
| .server data =>
    match c.filter.feedServer data with
    | (f', .error _) => { c with filter := f' }
    | (f', .ok _) =>
        { c with
          filter := f'
          served := c.served ++ data }

end Console

end ConsoleRelay

end TrueNorth

--------
-- What the Filter Knows of the Server
--------

namespace TrueNorth

namespace ConsoleRelay

open BigEndian Framing ViewOnlyFilter

/-
  How the server's side of the filter follows the bytes the
  server has sent: which of them it has taken, and what it
  keeps of them.
-/
inductive Heard
    (f : ViewOnlyFilter)
    (served : Bytes) : Prop where
| nothing
    (hState : f.sstate.rank = 0)
    (hServed : served = f.sbuf)
    (hOffered : f.offered = none)
    (hChallenge : f.challengeSeen = false)
| version
    (line : Bytes)
    (hState : f.sstate.rank = 1 ∨ f.sstate.rank = 2)
    (hLine : line ∈ versions)
    (hServed : served = line ++ f.sbuf)
    (hMinor : f.sver = minorVersion line)
    (hOffered : f.offered = none)
    (hChallenge : f.challengeSeen = false)
| list
    (line : Bytes)
    (count : UInt8)
    (types : List UInt8)
    (hState : f.sstate.rank = 3 ∨ f.sstate.rank = 4)
    (hLine : line ∈ versions)
    (hCount : types.length = count.toNat)
    (hServed :
      served = line ++ count :: (types ++ f.sbuf))
    (hOffered : f.offered = some types)
    (hChallenge : f.challengeSeen = false)
| challenge
    (line : Bytes)
    (count : UInt8)
    (types : List UInt8)
    (rest : Bytes)
    (hState : 5 ≤ f.sstate.rank)
    (hLine : line ∈ versions)
    (hCount : types.length = count.toNat)
    (hServed : served = line ++ count :: (types ++ rest))
    (hOffered : f.offered = some types)
    (hChallenge :
      f.challengeSeen = true →
        vncAuthResponse ≤ rest.length)

/- The two sides of the handshake never lose step. -/
def InStep (f : ViewOnlyFilter) : Prop :=
  match f.state with
  | .version => f.sstate.rank ≤ 1
  | .security => f.sstate.rank = 2 ∨ f.sstate.rank = 3
  | .auth => 4 ≤ f.sstate.rank
  | .init => 4 ≤ f.sstate.rank
  | .messages => 4 ≤ f.sstate.rank

private theorem offeredTypes_eq
    {line types rest : Bytes}
    {count : UInt8}
    (hLine : line ∈ versions)
    (hCount : types.length = count.toNat) :
    offeredTypes (line ++ count :: (types ++ rest)) =
      some types := by
  have hTwelve := length_of_mem_versions hLine
  unfold offeredTypes
  rw [← hTwelve, List.drop_left]
  simp only
  rw [if_neg (by rw [List.length_append]; omega), ← hCount,
    List.take_left]

theorem Heard.offeredTypes
    {f : ViewOnlyFilter}
    {served : Bytes}
    {types : List UInt8}
    (hHeard : Heard f served)
    (hOffered : f.offered = some types) :
    offeredTypes served = some types := by
  cases hHeard with
  | nothing _ _ hNone => rw [hNone] at hOffered; cases hOffered
  | version _ _ _ _ _ hNone =>
      rw [hNone] at hOffered
      cases hOffered
  | list line count types' _ hLine hCount hServed hSome =>
      rw [hSome] at hOffered
      cases hOffered
      rw [hServed]
      exact offeredTypes_eq hLine hCount
  | challenge line count types' rest _ hLine hCount hServed
      hSome =>
      rw [hSome] at hOffered
      cases hOffered
      rw [hServed]
      exact offeredTypes_eq hLine hCount

theorem Heard.challengeSent
    {f : ViewOnlyFilter}
    {served : Bytes}
    (hHeard : Heard f served)
    (hSeen : f.challengeSeen = true) :
    ChallengeSent served := by
  cases hHeard with
  | nothing _ _ _ hNot => rw [hNot] at hSeen; cases hSeen
  | version _ _ _ _ _ _ hNot => rw [hNot] at hSeen; cases hSeen
  | list _ _ _ _ _ _ _ _ hNot => rw [hNot] at hSeen; cases hSeen
  | challenge line count types rest _ hLine hCount hServed _
      hChallenge =>
      have hTwelve := length_of_mem_versions hLine
      have hRest := hChallenge hSeen
      rw [hServed]
      refine ⟨types, offeredTypes_eq hLine hCount, ?_⟩
      simp only [List.length_append, List.length_cons]
      omega

theorem Heard.version_of_rank
    {f : ViewOnlyFilter}
    {served : Bytes}
    (hHeard : Heard f served)
    (hRank : f.sstate.rank = 1) :
    served.take 12 ∈ versions ∧
      f.sver = minorVersion (served.take 12) := by
  cases hHeard with
  | nothing hState => omega
  | version line _ hLine hServed hMinor =>
      have hTake : served.take 12 = line := by
        rw [hServed, ← length_of_mem_versions hLine,
          List.take_left]
      rw [hTake]
      exact ⟨hLine, hMinor⟩
  | list _ _ _ hState => omega
  | challenge _ _ _ _ hState => omega

/- Bytes the server appends wait in its buffer. -/
theorem Heard.append
    {f : ViewOnlyFilter}
    {served : Bytes}
    (hHeard : Heard f served)
    (data : Bytes) :
    Heard { f with sbuf := f.sbuf ++ data }
      (served ++ data) := by
  cases hHeard with
  | nothing hState hServed hOffered hChallenge =>
      refine .nothing hState ?_ hOffered hChallenge
      rw [hServed]
  | version line hState hLine hServed hMinor hOffered
      hChallenge =>
      refine .version line hState hLine ?_ hMinor hOffered
        hChallenge
      rw [hServed, List.append_assoc]
  | list line count types hState hLine hCount hServed
      hOffered hChallenge =>
      refine .list line count types hState hLine hCount ?_
        hOffered hChallenge
      rw [hServed]
      simp
  | challenge line count types rest hState hLine hCount
      hServed hOffered hChallenge =>
      refine .challenge line count types (rest ++ data)
        hState hLine hCount ?_ hOffered ?_
      · rw [hServed]
        simp
      · intro hSeen
        have hRest := hChallenge hSeen
        rw [List.length_append]
        omega

/-
  Past the challenge the server's buffer no longer matters:
  only the list and the challenge already taken do.
-/
theorem Heard.later
    {f f' : ViewOnlyFilter}
    {served : Bytes}
    (hHeard : Heard f served)
    (hRank : 4 ≤ f.sstate.rank)
    (hRank' : 5 ≤ f'.sstate.rank)
    (hOffered' : f'.offered = f.offered)
    (hChallenge' : f'.challengeSeen = f.challengeSeen) :
    Heard f' served := by
  cases hHeard with
  | nothing hState => omega
  | version _ hState => omega
  | list line count types hState hLine hCount hServed
      hOffered hNot =>
      refine .challenge line count types f.sbuf hRank' hLine
        hCount hServed (hOffered'.trans hOffered) ?_
      intro hSeen
      rw [hChallenge', hNot] at hSeen
      cases hSeen
  | challenge line count types rest hState hLine hCount
      hServed hOffered hSeen =>
      exact .challenge line count types rest hRank' hLine
        hCount hServed (hOffered'.trans hOffered)
        (fun h => hSeen (hChallenge' ▸ h))

/- Every server item keeps what the filter knows true. -/
theorem Heard.serverTakes
    {f f' : ViewOnlyFilter}
    {served : Bytes}
    {again : Bool}
    (hHeard : Heard f served)
    (hTakes : ServerTakes f f' again) :
    Heard f' served := by
  cases hTakes with
  | waits => exact hHeard
  | version hState hLength hVersion =>
      cases hHeard with
      | nothing _ hServed hOffered hChallenge =>
          refine .version (f.sbuf.take 12) (.inl rfl)
            hVersion ?_ rfl hOffered hChallenge
          rw [hServed, List.take_append_drop]
      | version _ hRank => simp [hState, ServerState.rank] at hRank
      | list _ _ _ hRank => simp [hState, ServerState.rank] at hRank
      | challenge _ _ _ _ hRank =>
          simp [hState, ServerState.rank] at hRank
  | list count types hState hBuf hLength =>
      cases hHeard with
      | nothing hRank => simp [hState, ServerState.rank] at hRank
      | version line _ hLine hServed hMinor hOffered
          hChallenge =>
          refine .list line count (types.take count.toNat)
            (.inl rfl) hLine ?_ ?_ rfl hChallenge
          · rw [List.length_take]
            omega
          · rw [hServed, hBuf, List.take_append_drop]
      | list _ _ _ hRank => simp [hState, ServerState.rank] at hRank
      | challenge _ _ _ _ hRank =>
          simp [hState, ServerState.rank] at hRank
  | challenge hState hLength =>
      cases hHeard with
      | nothing hRank => simp [hState, ServerState.rank] at hRank
      | version _ hRank => simp [hState, ServerState.rank] at hRank
      | list line count types _ hLine hCount hServed hOffered
          hChallenge =>
          exact .challenge line count types f.sbuf (by simp [ServerState.rank])
            hLine hCount hServed hOffered (fun _ => hLength)
      | challenge _ _ _ _ hRank =>
          simp [hState, ServerState.rank] at hRank
  | result hState hLength =>
      exact hHeard.later (by simp [hState, ServerState.rank])
        (by simp [ServerState.rank]) rfl rfl
  | init hState =>
      exact hHeard.later (by simp [hState, ServerState.rank])
        (by simp [ServerState.rank]) rfl rfl

/- A server item never crosses a wait for the client. -/
private theorem rank_serverTakes
    {f f' : ViewOnlyFilter}
    {again : Bool}
    (hTakes : ServerTakes f f' again) :
    f'.sstate.rank = f.sstate.rank ∨
      f.sstate.rank = 0 ∧ f'.sstate.rank = 1 ∨
      f.sstate.rank = 2 ∧ f'.sstate.rank = 3 ∨
      4 ≤ f.sstate.rank ∧ 4 ≤ f'.sstate.rank := by
  cases hTakes with
  | waits => simp
  | version hState => simp [hState, ServerState.rank]
  | list count types hState => simp [hState, ServerState.rank]
  | challenge hState => simp [hState, ServerState.rank]
  | result hState => simp [hState, ServerState.rank]
  | init hState => simp [hState, ServerState.rank]

theorem InStep.serverTakes
    {f f' : ViewOnlyFilter}
    {again : Bool}
    (hStep : InStep f)
    (hTakes : ServerTakes f f' again) :
    InStep f' := by
  have hRank := rank_serverTakes hTakes
  have hState : f'.state = f.state := by
    cases hTakes <;> rfl
  unfold InStep at hStep ⊢
  rw [hState]
  cases hClient : f.state with
  | version =>
      rw [hClient] at hStep
      simp only at hStep ⊢
      omega
  | security =>
      rw [hClient] at hStep
      simp only at hStep ⊢
      omega
  | auth =>
      rw [hClient] at hStep
      simp only at hStep ⊢
      omega
  | init =>
      rw [hClient] at hStep
      simp only at hStep ⊢
      omega
  | messages =>
      rw [hClient] at hStep
      simp only at hStep ⊢
      omega

theorem advanceServer_heard
    {f f' : ViewOnlyFilter}
    {served : Bytes}
    (hHeard : Heard f served)
    (hStep : InStep f)
    (hAdvance : advanceServer f = .ok f') :
    Heard f' served ∧ InStep f' :=
  advanceServer_invariant
    (fun g => Heard g served ∧ InStep g)
    (fun _ _ _ hTakes hInv =>
      ⟨hInv.1.serverTakes hTakes,
        hInv.2.serverTakes hTakes⟩)
    ⟨hHeard, hStep⟩ hAdvance

--------
-- What the Filter Lets Through
--------

open BigEndian Framing ViewOnlyFilter

/- Where the hypervisor is when the filter is in a state. -/
def ClientState.phase : ClientState → Phase
| .version => .version
| .security => .choice
| .auth => .response
| .init => .shared
| .messages => .messages

/- A rewritten SetEncodings, read back by the hypervisor. -/
theorem setEncodings_permitted
    {codes : List Int}
    (served : Bytes)
    (hCount : codes.length ≤ maxEncodings)
    (hCodes : ∀ code ∈ codes, IsInt32 code)
    (hStripped : ∀ code ∈ codes, stripped code = false) :
    Permitted served .messages (setEncodings codes)
      .messages := by
  have hNat : natAt 2 2 (setEncodings codes) = codes.length := by
    have hSplit :
        setEncodings codes =
          2 :: 0 ::
            (ofNat16 codes.length ++ ofInts32 codes) := by
      simp [setEncodings]
    rw [hSplit, natAt, List.drop_succ_cons,
      List.drop_succ_cons, List.drop_zero,
      List.take_append_of_le_length (by simp),
      List.take_of_length_le (by simp)]
    apply nat_ofNat16
    unfold maxEncodings at hCount
    omega
  have hBody : (setEncodings codes).drop 4 = ofInts32 codes := rfl
  refine .setEncodings _ rfl ?_ ?_
  · rw [hNat]
    simp only [setEncodings, List.length_append,
      length_ofNat16, length_ofInts32, List.length_cons,
      List.length_nil]
  · rw [hNat, hBody, ← List.append_nil (ofInts32 codes),
      ints32_ofInts32 hCodes]
    exact hStripped

theorem choose_rank
    (f : ViewOnlyFilter)
    (choice : UInt8) :
    4 ≤ (f.choose choice).sstate.rank := by
  unfold choose
  split
  · simp [ServerState.rank]
  · split <;> simp [ServerState.rank]

/- The client's choice opens the server item it calls for. -/
theorem Heard.choose
    {f : ViewOnlyFilter}
    {served : Bytes}
    {offered : List UInt8}
    (hHeard : Heard f served)
    (hRank : f.sstate.rank = 2 ∨ f.sstate.rank = 3)
    (hOffered : f.offered = some offered)
    (choice : UInt8) :
    Heard (f.choose choice) served := by
  cases hHeard with
  | nothing hState => omega
  | version _ _ _ _ _ hNone =>
      rw [hNone] at hOffered
      cases hOffered
  | challenge _ _ _ _ hState => omega
  | list line count types hState hLine hCount hServed hTypes
      hNot =>
      have hNever :
          ∀ rest : Bytes,
            f.challengeSeen = true →
              vncAuthResponse ≤ rest.length := by
        intro rest hSeen
        rw [hNot] at hSeen
        cases hSeen
      unfold ViewOnlyFilter.choose
      split
      · exact .list line count types (.inr rfl) hLine hCount
          hServed hTypes hNot
      · split
        · exact .challenge line count types f.sbuf
            (by simp [ServerState.rank]) hLine hCount hServed
            hTypes (hNever f.sbuf)
        · exact .challenge line count types f.sbuf
            (by simp [ServerState.rank]) hLine hCount hServed
            hTypes (hNever f.sbuf)

/- Only the server's side of the filter is heard. -/
theorem Heard.congr
    {f f' : ViewOnlyFilter}
    {served : Bytes}
    (hHeard : Heard f served)
    (hSbuf : f'.sbuf = f.sbuf)
    (hSstate : f'.sstate.rank = f.sstate.rank)
    (hSver : f'.sver = f.sver)
    (hOffered : f'.offered = f.offered)
    (hSeen : f'.challengeSeen = f.challengeSeen) :
    Heard f' served := by
  cases hHeard with
  | nothing hState hServed hNone hNot =>
      exact .nothing (hSstate.trans hState)
        (hSbuf ▸ hServed) (hOffered.trans hNone)
        (hSeen.trans hNot)
  | version line hState hLine hServed hMinor hNone hNot =>
      exact .version line (hSstate ▸ hState) hLine
        (hSbuf ▸ hServed) (hSver.trans hMinor)
        (hOffered.trans hNone) (hSeen.trans hNot)
  | list line count types hState hLine hCount hServed hTypes
      hNot =>
      exact .list line count types (hSstate ▸ hState) hLine
        hCount (hSbuf ▸ hServed) (hOffered.trans hTypes)
        (hSeen.trans hNot)
  | challenge line count types rest hState hLine hCount
      hServed hTypes hChallenge =>
      exact .challenge line count types rest
        (hSstate ▸ hState) hLine hCount hServed
        (hOffered.trans hTypes)
        (fun h => hChallenge (hSeen ▸ h))

/-
  One unit keeps what is known of the server, the two sides
  in step, and takes the hypervisor where the filter goes.
-/
theorem ViewOnlyFilter.Takes.vouched
    {f f' : ViewOnlyFilter}
    {served : Bytes}
    {out : List Bytes}
    {taken : Nat}
    (hHeard : Heard f served)
    (hStep : InStep f)
    (hTakes : Takes f (f', out, taken)) :
    Heard f' served ∧ InStep f' ∧
      Chain (Permitted served) f.state.phase out
        f'.state.phase := by
  cases hTakes with
  | waits => exact ⟨hHeard, hStep, .nil _⟩
  | version _ hState hServer hLength hVersion hMinor
      hAdvance =>
      have hRank : f.sstate.rank = 1 := by
        simp only [InStep, hState] at hStep
        omega
      rcases hHeard.version_of_rank hRank with
        ⟨hServed, hSver⟩
      have hOpened :
          Heard
            { f with
              cver := minorVersion (f.buf.take 12)
              sstate := .list
              buf := f.buf.drop 12
              state := .security } served := by
        cases hHeard with
        | nothing hZero => omega
        | version line _ hLine hTaken hSver hNone hNot =>
            exact .version line (.inr rfl) hLine hTaken hSver
              hNone hNot
        | list _ _ _ hThree => omega
        | challenge _ _ _ _ hFive => omega
      have hAfter :=
        advanceServer_heard hOpened
          (by simp [InStep, ServerState.rank]) hAdvance
      have hSame := advanceServer_sameClient hAdvance
      refine ⟨hAfter.1, hAfter.2, ?_⟩
      rw [hState, hSame.state]
      refine .single (.version _ hVersion hServed ?_)
      rw [← hSver]
      exact hMinor
  | security choice rest offered _ hState hBuf hOffered
      hChoosable hAdvance =>
      have hRank :
          f.sstate.rank = 2 ∨ f.sstate.rank = 3 := by
        simpa only [InStep, hState] using hStep
      have hOpened := hHeard.choose hRank hOffered choice
      have hPlace :
          InStep
            { f.choose choice with
              buf := rest
              state :=
                if choice = securityVnc then .auth
                else .init } := by
        have hFour := choose_rank f choice
        unfold InStep
        by_cases hVnc : choice = securityVnc
        · simp only [if_pos hVnc]
          exact hFour
        · simp only [if_neg hVnc]
          exact hFour
      have hKnown :
          Heard
            { f.choose choice with
              buf := rest
              state :=
                if choice = securityVnc then .auth
                else .init } served :=
        hOpened.congr rfl rfl rfl rfl rfl
      have hAfter :=
        advanceServer_heard hKnown hPlace hAdvance
      have hSame := advanceServer_sameClient hAdvance
      have hTypes := hHeard.offeredTypes hOffered
      refine ⟨hAfter.1, hAfter.2, ?_⟩
      rw [hState, hSame.state]
      simp only [choosable, Bool.and_eq_true,
        Bool.or_eq_true, beq_iff_eq,
        List.contains_iff_mem] at hChoosable
      rcases hChoosable with ⟨rfl | rfl, hMem⟩
      · exact .single (.none offered hTypes hMem)
      · exact .single (.vnc offered hTypes hMem)
  | auth hState hChallenge hLength =>
      simp only [InStep, hState] at hStep
      refine ⟨hHeard.congr rfl rfl rfl rfl rfl, hStep, ?_⟩
      rw [hState]
      refine .single (.response _ ?_ ?_)
      · rw [List.length_take]
        omega
      · exact hHeard.challengeSent hChallenge
  | init shared rest _ hState hBuf hDone hAdvance =>
      simp only [InStep, hState] at hStep
      have hOpened :
          Heard
            { f with
              buf := rest
              state := .messages
              sstate := .init } served :=
        hHeard.later hStep (by simp [ServerState.rank]) rfl
          rfl
      have hAfter :=
        advanceServer_heard hOpened
          (by simp [InStep, ServerState.rank]) hAdvance
      have hSame := advanceServer_sameClient hAdvance
      refine ⟨hAfter.1, hAfter.2, ?_⟩
      rw [hState, hSame.state]
      exact .single .shared
  | forwarded kind rest _ hState hReady hBuf hKind hLength =>
      refine ⟨hHeard.congr rfl rfl rfl rfl rfl, hStep, ?_⟩
      have hTaken : (f.buf.take taken).length = taken := by
        rw [List.length_take]
        omega
      have hHead : (f.buf.take taken).head? = some kind := by
        rw [hBuf]
        rcases hKind with ⟨_, rfl⟩ | ⟨_, rfl⟩ <;> rfl
      simp only [hState]
      rcases hKind with ⟨rfl, rfl⟩ | ⟨rfl, rfl⟩
      · exact .single (.setPixelFormat _ hHead hTaken)
      · exact .single
          (.framebufferUpdateRequest _ hHead hTaken)
  | encodings rest hState hReady hBuf hCount hLength =>
      refine ⟨hHeard.congr rfl rfl rfl rfl rfl, hStep, ?_⟩
      simp only [hState]
      refine .single (setEncodings_permitted served ?_ ?_ ?_)
      · refine Nat.le_trans (List.length_filter_le _ _) ?_
        rw [length_ints32]
        exact hCount
      · intro code hCode
        exact isInt32_of_mem_ints32 (List.mem_filter.mp hCode).1
      · intro code hCode
        simpa using (List.mem_filter.mp hCode).2
  | dropped n hState hReady hLength =>
      exact ⟨hHeard.congr rfl rfl rfl rfl rfl, hStep, .nil _⟩

--------
-- Every Interleaving
--------

open BigEndian Framing ViewOnlyFilter

/-
  The units forwarded so far are permitted; while the filter
  is alive, it is where the hypervisor is and knows what the
  server has sent.
-/
structure Console.Vouched (c : Console) : Prop where
  permitted :
    ∃ phase,
      Chain (Permitted c.served) .version c.forwarded phase
  alive :
    c.filter.dead = false →
      Heard c.filter c.served ∧ InStep c.filter ∧
        Chain (Permitted c.served) .version c.forwarded
          c.filter.state.phase

/- The units of one call, and the state they lead to. -/
theorem feed_vouched
    {f f' : ViewOnlyFilter}
    {served data : Bytes}
    {out : List Bytes}
    (hHeard : Heard f served)
    (hStep : InStep f)
    (hRun : run f data = .ok (f', out)) :
    Heard f' served ∧ InStep f' ∧
      Chain (Permitted served) f.state.phase out
        f'.state.phase := by
  have hTurns :
      ∀ g g' done units again,
        Turns g g' units again →
        (Heard g served ∧ InStep g ∧
          Chain (Permitted served) f.state.phase done
            g.state.phase) →
        Heard g' served ∧ InStep g' ∧
          Chain (Permitted served) f.state.phase
            (done ++ units) g'.state.phase := by
    rintro g g' done units again hTurn ⟨hHeard, hStep, hDone⟩
    cases hTurn with
    | skips hSkip =>
        rw [List.append_nil]
        exact ⟨hHeard.congr rfl rfl rfl rfl rfl, hStep, hDone⟩
    | takes _ _ taken hSkip hTakes =>
        rcases hTakes.vouched hHeard hStep with
          ⟨hHeard', hStep', hUnits⟩
        exact ⟨hHeard', hStep', hDone.append hUnits⟩
  have hStart :
      Heard { f with buf := f.buf ++ data } served :=
    hHeard.congr rfl rfl rfl rfl rfl
  simpa using
    run_invariant hTurns ⟨hStart, hStep, .nil _⟩ hRun

/- The server's bytes of one call. -/
theorem feedServer_heard
    {f f' : ViewOnlyFilter}
    {served data : Bytes}
    (hHeard : Heard f served)
    (hStep : InStep f)
    (hFeed : f.feedServer data = (f', .ok ())) :
    Heard f' (served ++ data) ∧ InStep f' ∧
      f'.state = f.state := by
  have hMore := hHeard.append data
  rcases (feedServer_ok hFeed).2 with
    ⟨hDone, rfl⟩ | ⟨hAdvance, _⟩
  · refine ⟨?_, hStep, rfl⟩
    exact hMore.later (by simp [hDone, ServerState.rank])
      (by simp [hDone, ServerState.rank]) rfl rfl
  · rcases advanceServer_heard hMore hStep hAdvance with
      ⟨hHeard', hStep'⟩
    exact ⟨hHeard', hStep',
      (advanceServer_sameClient hAdvance).state⟩

theorem Console.vouched_step
    (c : Console)
    (arrival : Arrival)
    (hVouched : c.Vouched) :
    (c.step arrival).Vouched := by
  rcases hVouched with ⟨hPermitted, hAlive⟩
  cases arrival with
  | client data =>
      cases hFeed : c.filter.feed data with
      | mk f' answer =>
          simp only [Console.step, hFeed]
          cases answer with
          | error violation =>
              refine ⟨hPermitted, fun hNot => ?_⟩
              rw [feed_error hFeed] at hNot
              cases hNot
          | ok out =>
              rcases feed_ok hFeed with ⟨hDead, hRun⟩
              rcases hAlive hDead with ⟨hHeard, hStep, hChain⟩
              rcases feed_vouched hHeard hStep hRun with
                ⟨hHeard', hStep', hUnits⟩
              have hAll := hChain.append hUnits
              exact ⟨⟨_, hAll⟩,
                fun _ => ⟨hHeard', hStep', hAll⟩⟩
  | server data =>
      cases hFeed : c.filter.feedServer data with
      | mk f' answer =>
          simp only [Console.step, hFeed]
          cases answer with
          | error violation =>
              refine ⟨hPermitted, fun hNot => ?_⟩
              rw [feedServer_error hFeed] at hNot
              cases hNot
          | ok =>
              have hDead := (feedServer_ok hFeed).1
              rcases hAlive hDead with ⟨hHeard, hStep, hChain⟩
              rcases feedServer_heard hHeard hStep hFeed with
                ⟨hHeard', hStep', hState⟩
              have hMore :
                  Chain (Permitted (c.served ++ data)) .version
                    c.forwarded f'.state.phase := by
                rw [hState]
                exact hChain.mono
                  (fun _ _ _ hUnit => hUnit.append data)
              exact ⟨⟨_, hMore⟩,
                fun _ => ⟨hHeard', hStep', hMore⟩⟩

theorem Console.vouched_fresh :
    Console.fresh.Vouched :=
  ⟨⟨_, .nil _⟩, fun _ =>
    ⟨.nothing rfl rfl rfl rfl, by simp [InStep, fresh,
      ViewOnlyFilter.fresh, ServerState.rank], .nil _⟩⟩

/-
  View-only console safety.  At every moment the forwarded
  units are a permitted client stream; their concatenation,
  read by a hypervisor that knows the whole grammar, is cut
  into exactly these units; and past the handshake each of
  them is a SetPixelFormat, a SetEncodings or a
  FramebufferUpdateRequest.
-/
theorem Console.forwarded_permitted
    (arrivals : List Arrival) :
    let c := Runs.run Console.step Console.fresh arrivals
    (∃ phase,
      Chain (Permitted c.served) .version c.forwarded
        phase) ∧
      hypervisor.frame .version c.forwarded.flatten =
        some c.forwarded ∧
      ∀ before unit after,
        c.forwarded = before ++ unit :: after →
        hypervisor.phaseAfter .version before = .messages →
        unit.head? = some 0 ∨ unit.head? = some 2 ∨
          unit.head? = some 3 := by
  intro c
  have hVouched : c.Vouched :=
    Runs.run_invariant Console.Vouched Console.vouched_step
      Console.vouched_fresh arrivals
  rcases hVouched.permitted with ⟨phase, hChain⟩
  refine ⟨⟨phase, hChain⟩, ?_, ?_⟩
  · apply Framer.frame_flatten
    exact hChain.mono (fun _ _ _ hUnit => permitted_reads hUnit)
  · intro before unit after hForwarded hPhase
    rw [hForwarded] at hChain
    rcases Framer.reads_of_mem
        (fun _ _ _ hUnit => permitted_reads hUnit) hChain
      with ⟨r, hUnit⟩
    rw [hPhase] at hUnit
    cases hUnit with
    | setPixelFormat _ hKind => exact .inl hKind
    | setEncodings _ hKind => exact .inr (.inl hKind)
    | framebufferUpdateRequest _ hKind =>
        exact .inr (.inr hKind)

/-
  A login without password whose client then presses a key:
  the key is dropped and the update request after it passes.
-/
example :
    let line := [82, 70, 66, 32, 48, 48, 51, 46, 48, 48, 56, 10]
    let request := [3, 0, 0, 0, 0, 0, 1, 0, 1, 0]
    (Runs.run Console.step Console.fresh
      [.server line, .client line, .server [1, 1],
        .client [1], .server [0, 0, 0, 0], .client [0],
        .server (List.replicate 24 0), .client [4, 1, 0],
        .client ([0, 0, 0, 0, 97] ++ request)]).forwarded =
      [line, [1], [1], request] := by
  decide

end ConsoleRelay

end TrueNorth
