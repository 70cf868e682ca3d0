import TrueNorth.Lib.Incremental
import TrueNorth.ConsoleRelay.ViewOnly

/-
  The cuts between the pieces a stream arrives in do not
  matter: one call with both pieces does what two calls do,
  on either side.

  Main theorems:
    * `ViewOnlyFilter.feed_append`
    * `ViewOnlyFilter.feedServer_append`
-/

--------
-- More Bytes from the Server
--------

namespace TrueNorth

namespace ConsoleRelay

namespace ViewOnlyFilter

open BigEndian Incremental

/- Bytes put behind those the server's side still holds. -/
def serverMore
    (data : Bytes)
    (f : ViewOnlyFilter) : ViewOnlyFilter :=
  if f.sstate = .done then f
  else { f with sbuf := f.sbuf ++ data }

theorem serverMore_done
    {f : ViewOnlyFilter}
    (hDone : f.sstate = .done)
    (data : Bytes) :
    f.serverMore data = f := by
  unfold serverMore
  rw [if_pos hDone]

theorem serverMore_held
    {f : ViewOnlyFilter}
    (hHeld : f.sstate ≠ .done)
    (data : Bytes) :
    f.serverMore data = { f with sbuf := f.sbuf ++ data } := by
  unfold serverMore
  rw [if_neg hHeld]

/- How a turn with more bytes follows from one without. -/
def ServerCarries
    (data : Bytes)
    (before after :
      Except Fault (ViewOnlyFilter × Bool)) : Prop :=
  match before with
  | .error _ => ∃ fault, after = .error fault
  | .ok (g, true) => after = .ok (g.serverMore data, true)
  | .ok (g, false) => after = serverItem (g.serverMore data)

theorem ServerCarries.waits
    {f : ViewOnlyFilter}
    (hItem : serverItem f = .ok (f, false))
    (data : Bytes) :
    ServerCarries data (serverItem f)
      (serverItem (f.serverMore data)) := by
  rw [hItem]
  exact rfl

/- A server item is judged by its own bytes. -/
theorem serverItem_more
    (f : ViewOnlyFilter)
    (data : Bytes) :
    ServerCarries data (serverItem f)
      (serverItem (f.serverMore data)) := by
  cases hState : f.sstate with
  | version =>
      by_cases hShort : f.sbuf.length < 12
      · have hItem : serverItem f = .ok (f, false) := by
          simp [serverItem, hState, hShort]
        exact .waits hItem data
      · have hTake :
            (f.sbuf ++ data).take 12 = f.sbuf.take 12 :=
          List.take_append_of_le_length (by omega)
        have hDrop :
            (f.sbuf ++ data).drop 12 =
              f.sbuf.drop 12 ++ data :=
          List.drop_append_of_le_length (by omega)
        have hLong : ¬ (f.sbuf ++ data).length < 12 := by
          rw [List.length_append]
          omega
        rw [serverMore_held (by simp [hState])]
        simp only [serverItem, hState, hShort, hLong,
          if_false, hTake, hDrop]
        split
        · exact ⟨_, rfl⟩
        · rfl
  | list =>
      cases hBuf : f.sbuf with
      | nil =>
          have hItem : serverItem f = .ok (f, false) := by
            simp [serverItem, hState, hBuf]
          exact .waits hItem data
      | cons count types =>
          by_cases hShort : types.length < count.toNat
          · by_cases hZero : count = 0
            · subst hZero
              exact absurd hShort (by simp)
            · have hItem : serverItem f = .ok (f, false) := by
                simp [serverItem, hState, hBuf, hZero, hShort]
              exact .waits hItem data
          · have hTake :
                (types ++ data).take count.toNat =
                  types.take count.toNat :=
              List.take_append_of_le_length (by omega)
            have hDrop :
                (types ++ data).drop count.toNat =
                  types.drop count.toNat ++ data :=
              List.drop_append_of_le_length (by omega)
            have hLong :
                ¬ (types ++ data).length < count.toNat := by
              rw [List.length_append]
              omega
            rw [serverMore_held (by simp [hState])]
            simp only [serverItem, hState, hBuf,
              List.cons_append, hShort, hLong, if_false,
              hTake, hDrop]
            split
            · exact ⟨_, rfl⟩
            · rfl
  | challenge =>
      by_cases hShort : f.sbuf.length < vncAuthResponse
      · have hItem : serverItem f = .ok (f, false) := by
          simp [serverItem, hState, hShort]
        exact .waits hItem data
      · have hDrop :
            (f.sbuf ++ data).drop vncAuthResponse =
              f.sbuf.drop vncAuthResponse ++ data :=
          List.drop_append_of_le_length (by omega)
        have hLong :
            ¬ (f.sbuf ++ data).length < vncAuthResponse := by
          rw [List.length_append]
          omega
        rw [serverMore_held (by simp [hState])]
        simp only [serverItem, hState, hShort, hLong,
          if_false, hDrop]
        rfl
  | result =>
      by_cases hShort : f.sbuf.length < 4
      · have hItem : serverItem f = .ok (f, false) := by
          simp [serverItem, hState, hShort]
        exact .waits hItem data
      · have hTake :
            (f.sbuf ++ data).take 4 = f.sbuf.take 4 :=
          List.take_append_of_le_length (by omega)
        have hDrop :
            (f.sbuf ++ data).drop 4 =
              f.sbuf.drop 4 ++ data :=
          List.drop_append_of_le_length (by omega)
        have hLong : ¬ (f.sbuf ++ data).length < 4 := by
          rw [List.length_append]
          omega
        rw [serverMore_held (by simp [hState])]
        simp only [serverItem, hState, hShort, hLong,
          if_false, hTake, hDrop]
        split
        · exact ⟨_, rfl⟩
        · rfl
  | init =>
      by_cases hShort : f.sbuf.length < 24
      · have hItem : serverItem f = .ok (f, false) := by
          simp [serverItem, hState, hShort]
        exact .waits hItem data
      · have hName :
            natAt 4 20 (f.sbuf ++ data) =
              natAt 4 20 f.sbuf :=
          natAt_append (by omega) data
        have hLong : ¬ (f.sbuf ++ data).length < 24 := by
          rw [List.length_append]
          omega
        by_cases hBig : natAt 4 20 f.sbuf > maxName
        · rw [serverMore_held (by simp [hState])]
          simp only [serverItem, hState, hShort, hLong,
            if_false, hName, hBig, if_true, refuse]
          exact ⟨_, rfl⟩
        · by_cases hPart :
              f.sbuf.length < 24 + natAt 4 20 f.sbuf
          · have hItem : serverItem f = .ok (f, false) := by
              simp only [serverItem, hState, hShort, hBig,
                hPart, if_true, if_false]
            exact .waits hItem data
          · have hWhole :
                ¬ (f.sbuf ++ data).length <
                  24 + natAt 4 20 f.sbuf := by
              rw [List.length_append]
              omega
            rw [serverMore_held (by simp [hState])]
            simp only [serverItem, hState, hShort, hLong,
              if_false, hName, hBig, hPart, hWhole]
            rfl
  | versionWait =>
      have hItem : serverItem f = .ok (f, false) := by
        simp [serverItem, hState]
      exact .waits hItem data
  | choiceWait =>
      have hItem : serverItem f = .ok (f, false) := by
        simp [serverItem, hState]
      exact .waits hItem data
  | initWait =>
      have hItem : serverItem f = .ok (f, false) := by
        simp [serverItem, hState]
      exact .waits hItem data
  | done =>
      have hItem : serverItem f = .ok (f, false) := by
        simp [serverItem, hState]
      exact .waits hItem data

/- The server's loop, as a loop that puts nothing out. -/
def serverTurn : Turn ViewOnlyFilter Unit Fault :=
  fun f =>
    match serverItem f with
    | .error fault => .error fault
    | .ok (g, again) => .ok (g, [], again)

theorem serverTurn_extends
    (data : Bytes) :
    Extends serverTurn (serverMore data) := by
  constructor
  case goes =>
    intro f g out hTurn
    unfold serverTurn at hTurn ⊢
    have hMore := serverItem_more f data
    rcases hItem : serverItem f with fault | ⟨g', again⟩
    · rw [hItem] at hTurn
      cases hTurn
    · rw [hItem] at hTurn hMore
      cases hTurn
      unfold ServerCarries at hMore
      dsimp only at hMore
      rw [hMore]
  case stops =>
    intro f g out hTurn
    unfold serverTurn at hTurn ⊢
    have hMore := serverItem_more f data
    rcases hItem : serverItem f with fault | ⟨g', again⟩
    · rw [hItem] at hTurn
      cases hTurn
    · rw [hItem] at hTurn hMore
      cases hTurn
      unfold ServerCarries at hMore
      dsimp only at hMore
      rw [hMore]
      exact ⟨rfl, rfl⟩
  case fails =>
    intro f fault hTurn
    unfold serverTurn at hTurn ⊢
    have hMore := serverItem_more f data
    rcases hItem : serverItem f with fault' | ⟨g', again⟩
    · rw [hItem] at hMore
      rcases hMore with ⟨fault'', hError⟩
      rw [hError]
      exact ⟨fault'', rfl⟩
    · rw [hItem] at hTurn
      cases hTurn

theorem serverLoop_eq
    (turns : Nat)
    (f : ViewOnlyFilter) :
    serverLoop turns f =
      match Incremental.loop serverTurn turns f with
      | .error fault => .error fault
      | .ok (g, _) => .ok g := by
  induction turns generalizing f with
  | zero => rfl
  | succ turns ih =>
      rw [serverLoop, Incremental.loop]
      unfold serverTurn
      rcases hItem : serverItem f with fault | ⟨g, again⟩
      · rfl
      · cases again with
        | false => rfl
        | true =>
            dsimp only
            rw [ih g]
            unfold serverTurn
            split <;> simp_all

/- The loop settles: its turns are enough. -/
theorem advanceServer_iff
    (f g : ViewOnlyFilter) :
    advanceServer f = .ok g ↔
      ∃ out, Settles serverTurn f out g := by
  have hTurns : 8 - f.sstate.rank < 9 := by omega
  have hLoop : ∀ out,
      Incremental.loop serverTurn 9 f = .ok (g, out) ↔
        Settles serverTurn f out g := by
    intro out
    apply loop_iff_settles (fun f => 8 - f.sstate.rank) _
      hTurns
    intro s s' out' hTurn
    unfold serverTurn at hTurn
    rcases hItem : serverItem s with fault | ⟨s'', again⟩
    · rw [hItem] at hTurn
      cases hTurn
    · rw [hItem] at hTurn
      cases hTurn
      have hRank := (serverItem_takes hItem).rank rfl
      have hBound : s'.sstate.rank ≤ 8 := by
        cases s'.sstate <;> simp [ServerState.rank]
      omega
  unfold advanceServer
  rw [serverLoop_eq]
  constructor
  · intro hOk
    rcases hRun : Incremental.loop serverTurn 9 f with
      fault | ⟨g', out⟩
    · rw [hRun] at hOk
      cases hOk
    · rw [hRun] at hOk
      cases hOk
      exact ⟨out, (hLoop out).mp hRun⟩
  · rintro ⟨out, hSettles⟩
    rw [(hLoop out).mpr hSettles]

/- The server's bytes may be cut anywhere. -/
theorem advanceServer_more
    (f g : ViewOnlyFilter)
    (data : Bytes) :
    advanceServer (f.serverMore data) = .ok g ↔
      ∃ f', advanceServer f = .ok f' ∧
        advanceServer (f'.serverMore data) = .ok g := by
  rw [advanceServer_iff]
  constructor
  · rintro ⟨out, hSettles⟩
    rcases (serverTurn_extends data).settles_iff.mp hSettles
      with ⟨f', before, after, hBefore, hAfter, _⟩
    exact ⟨f', (advanceServer_iff f f').mpr ⟨before, hBefore⟩,
      (advanceServer_iff _ g).mpr ⟨after, hAfter⟩⟩
  · rintro ⟨f', hBefore, hAfter⟩
    rcases (advanceServer_iff f f').mp hBefore with
      ⟨before, hBefore⟩
    rcases (advanceServer_iff _ g).mp hAfter with
      ⟨after, hAfter⟩
    exact ⟨before ++ after,
      (serverTurn_extends data).settles_iff.mpr
        ⟨f', before, after, hBefore, hAfter, rfl⟩⟩

--------
-- More Bytes from the Client
--------

open BigEndian Incremental

/- Bytes put behind those the client's side still holds. -/
def more
    (data : Bytes)
    (f : ViewOnlyFilter) : ViewOnlyFilter :=
  { f with buf := f.buf ++ data }

/- The server's side does not read the client's bytes. -/
theorem serverItem_more_client
    (f : ViewOnlyFilter)
    (data : Bytes) :
    serverItem (f.more data) =
      match serverItem f with
      | .error fault =>
          .error
            { fault with filter := fault.filter.more data }
      | .ok (g, again) => .ok (g.more data, again) := by
  rcases f with ⟨buf, state, skip, dead, dropped, sbuf,
    sstate, sver, cver, offered, choice, challengeSeen,
    securityDone, serverinitSeen⟩
  unfold serverItem more
  cases sstate with
  | list =>
      cases sbuf with
      | nil => rfl
      | cons count types =>
          dsimp only
          split
          · rfl
          · split <;> rfl
  | version =>
      dsimp only
      split
      · rfl
      · split <;> rfl
  | challenge =>
      dsimp only
      split <;> rfl
  | result =>
      dsimp only
      split
      · rfl
      · split <;> rfl
  | init =>
      dsimp only
      split
      · rfl
      · split
        · rfl
        · split <;> rfl
  | versionWait => rfl
  | choiceWait => rfl
  | initWait => rfl
  | done => rfl

theorem advanceServer_more_client
    (f : ViewOnlyFilter)
    (data : Bytes) :
    advanceServer (f.more data) =
      match advanceServer f with
      | .error fault =>
          .error
            { fault with filter := fault.filter.more data }
      | .ok g => .ok (g.more data) := by
  have hLoop : ∀ turns (f : ViewOnlyFilter),
      serverLoop turns (f.more data) =
        match serverLoop turns f with
        | .error fault =>
            .error
              { fault with filter := fault.filter.more data }
        | .ok g => .ok (g.more data) := by
    intro turns
    induction turns with
    | zero =>
        intro f
        rfl
    | succ turns ih =>
        intro f
        rw [serverLoop, serverLoop, serverItem_more_client]
        rcases hItem : serverItem f with fault | ⟨g, again⟩
        · rfl
        · cases again with
          | false => rfl
          | true => exact ih g
  exact hLoop 9 f

/- How a unit with more bytes follows from one without. -/
def Carries
    (data : Bytes)
    (before after : Except Fault Taken) : Prop :=
  match before with
  | .error _ => ∃ fault, after = .error fault
  | .ok (g, out, taken) =>
      taken = 0 ∨ after = .ok (g.more data, out, taken)

theorem Carries.waits
    {f : ViewOnlyFilter}
    {data : Bytes}
    {before after : Except Fault Taken}
    (hBefore : before = .ok (f, [], 0)) :
    Carries data before after := by
  rw [hBefore]
  exact .inl rfl

theorem Carries.refused
    {data : Bytes}
    (f g : ViewOnlyFilter)
    (code code' : Nat)
    (reason reason' : String) :
    Carries data (refuse f code reason)
      (refuse g code' reason') :=
  ⟨_, rfl⟩

theorem thenAdvance_more
    (f : ViewOnlyFilter)
    (data out : Bytes)
    (taken : Nat) :
    Carries data (thenAdvance f out taken)
      (thenAdvance (f.more data) out taken) := by
  unfold thenAdvance
  rw [advanceServer_more_client]
  cases advanceServer f with
  | error fault => exact ⟨_, rfl⟩
  | ok g => exact .inr rfl

/- Long enough to be read without what stands behind it. -/
theorem read_append
    {bytes : Bytes}
    {n : Nat}
    (hLong : ¬ bytes.length < n)
    (data : Bytes) :
    ¬ (bytes ++ data).length < n ∧
      (bytes ++ data).take n = bytes.take n ∧
      (bytes ++ data).drop n = bytes.drop n ++ data := by
  refine ⟨?_, ?_, ?_⟩
  · rw [List.length_append]
    omega
  · exact List.take_append_of_le_length (by omega)
  · exact List.drop_append_of_le_length (by omega)

theorem nextVersion_more
    (f : ViewOnlyFilter)
    (data : Bytes) :
    Carries data (nextVersion f) (nextVersion (f.more data))
    := by
  by_cases hEarly :
      f.sstate.rank < ServerState.versionWait.rank
  · have hMore : (f.more data).sstate.rank <
        ServerState.versionWait.rank := hEarly
    unfold nextVersion
    rw [if_pos hEarly, if_pos hMore]
    exact .refused _ _ _ _ _ _
  · by_cases hShort : f.buf.length < 12
    · apply Carries.waits
      unfold nextVersion
      rw [if_neg hEarly, if_pos hShort]
    · rcases read_append hShort data with
        ⟨hLong, hTake, hDrop⟩
      unfold nextVersion
      simp only [more, hEarly, hShort, hLong, hTake,
        if_false]
      by_cases hVersion : f.buf.take 12 ∈ versions
      · simp only [hVersion, not_true_eq_false, if_false]
        by_cases hNewer :
            minorVersion (f.buf.take 12) > f.sver
        · simp only [hNewer, if_true]
          exact .refused _ _ _ _ _ _
        · simp only [hNewer, if_false, pass, hTake, hDrop]
          exact thenAdvance_more _ data _ 12
      · simp only [hVersion, not_false_eq_true, if_true]
        exact .refused _ _ _ _ _ _

theorem choose_more
    (f : ViewOnlyFilter)
    (data : Bytes)
    (choice : UInt8) :
    (f.more data).choose choice =
      (f.choose choice).more data := by
  unfold choose more
  dsimp only
  split
  · rfl
  · split <;> rfl

theorem choose_buf
    (f : ViewOnlyFilter)
    (choice : UInt8) :
    (f.choose choice).buf = f.buf := by
  unfold choose
  split
  · rfl
  · split <;> rfl

theorem nextSecurity_more
    (f : ViewOnlyFilter)
    (data : Bytes)
    {choice : UInt8}
    {rest : Bytes}
    (hBuf : f.buf = choice :: rest) :
    Carries data (nextSecurity f choice)
      (nextSecurity (f.more data) choice) := by
  have hOffered : (f.more data).offered = f.offered := rfl
  unfold nextSecurity
  rw [hOffered]
  cases f.offered with
  | none => exact .refused _ _ _ _ _ _
  | some offered =>
      dsimp only
      split
      case isTrue => exact .refused _ _ _ _ _ _
      case isFalse =>
        have hShort : ¬ (f.choose choice).buf.length < 1 := by
          rw [choose_buf, hBuf, List.length_cons]
          omega
        rcases read_append hShort data with
          ⟨_, hTake, hDrop⟩
        rw [choose_more]
        simp only [pass, more, hTake, hDrop]
        exact thenAdvance_more _ data _ 1

theorem forwardMessage_more
    (f : ViewOnlyFilter)
    (data : Bytes)
    (n : Nat) :
    Carries data (.ok (forwardMessage f n))
      (.ok (forwardMessage (f.more data) n)) := by
  by_cases hShort : f.buf.length < n
  · apply Carries.waits
    unfold forwardMessage
    rw [if_pos hShort]
  · rcases read_append hShort data with
      ⟨hLong, hTake, hDrop⟩
    unfold forwardMessage
    simp only [more, hShort, hLong, hTake, hDrop, if_false]
    exact .inr rfl

theorem natAt_more
    {bytes : Bytes}
    {width offset : Nat}
    (hLong : ¬ bytes.length < offset + width)
    (data : Bytes) :
    natAt width offset (bytes ++ data) =
      natAt width offset bytes :=
  natAt_append (by omega) data

/- The fields read lie before what stands behind them. -/
theorem ints32_more
    (count : Nat)
    {bytes : Bytes}
    (hLong : 4 * count ≤ bytes.length)
    (data : Bytes) :
    ints32 count (bytes ++ data) = ints32 count bytes := by
  induction count generalizing bytes with
  | zero => rfl
  | succ count ih =>
      rw [ints32, ints32,
        List.take_append_of_le_length (by omega),
        List.drop_append_of_le_length (by omega), ih]
      rw [List.length_drop]
      omega

theorem encodingsMessage_more
    (f : ViewOnlyFilter)
    (data : Bytes) :
    Carries data (encodingsMessage f)
      (encodingsMessage (f.more data)) := by
  by_cases hShort : f.buf.length < 4
  · apply Carries.waits
    unfold encodingsMessage
    rw [if_pos hShort]
  · have hCount :
        natAt 2 2 (f.buf ++ data) = natAt 2 2 f.buf :=
      natAt_more (by omega) data
    have hLong := (read_append hShort data).1
    by_cases hMany : natAt 2 2 f.buf > maxEncodings
    · unfold encodingsMessage
      simp only [more, hShort, hLong, hCount, hMany,
        if_false, if_true]
      exact .refused _ _ _ _ _ _
    · by_cases hPart :
          f.buf.length < 4 + 4 * natAt 2 2 f.buf
      · apply Carries.waits (f := f)
        unfold encodingsMessage
        simp only [hShort, hMany, hPart, if_false, if_true]
      · rcases read_append hPart data with
          ⟨hWhole, _, hDrop⟩
        have hCodes :
            ints32 (natAt 2 2 f.buf)
                ((f.buf ++ data).drop 4) =
              ints32 (natAt 2 2 f.buf) (f.buf.drop 4) := by
          rw [List.drop_append_of_le_length (by omega)]
          apply ints32_more
          rw [List.length_drop]
          omega
        unfold encodingsMessage
        simp only [more, hShort, hLong, hCount, hMany, hPart,
          hWhole, hDrop, hCodes, if_false]
        exact .inr rfl

theorem cutTextMessage_more
    (f : ViewOnlyFilter)
    (data : Bytes) :
    Carries data (cutTextMessage f)
      (cutTextMessage (f.more data)) := by
  by_cases hShort : f.buf.length < 8
  · apply Carries.waits
    unfold cutTextMessage
    rw [if_pos hShort]
  · have hLength :
        natAt 4 4 (f.buf ++ data) = natAt 4 4 f.buf :=
      natAt_more (by omega) data
    have hLong := (read_append hShort data).1
    unfold cutTextMessage
    simp only [more, hShort, hLong, hLength, if_false]
    split
    case isTrue => exact .refused _ _ _ _ _ _
    case isFalse => exact .inr rfl

theorem message_more
    (f : ViewOnlyFilter)
    (data : Bytes) :
    Carries data (message f) (message (f.more data)) := by
  cases hBuf : f.buf with
  | nil =>
      apply Carries.waits
      unfold message
      rw [hBuf]
  | cons kind rest =>
      have hMore : (f.more data).buf = kind :: (rest ++ data) := by
        unfold more
        rw [hBuf, List.cons_append]
      unfold message
      rw [hBuf, hMore]
      dsimp only
      split
      case isTrue => exact forwardMessage_more f data 20
      case isFalse =>
        split
        case isTrue => exact forwardMessage_more f data 10
        case isFalse =>
          split
          case isTrue => exact encodingsMessage_more f data
          case isFalse =>
            split
            case isTrue => exact .inr rfl
            case isFalse =>
              split
              case isTrue => exact .inr rfl
              case isFalse =>
                split
                case isTrue => exact cutTextMessage_more f data
                case isFalse => exact .refused _ _ _ _ _ _

/- A unit is judged by its own bytes. -/
theorem next_more
    (f : ViewOnlyFilter)
    (data : Bytes) :
    Carries data (next f) (next (f.more data)) := by
  cases hBuf : f.buf with
  | nil =>
      apply Carries.waits
      unfold next
      rw [hBuf]
  | cons head rest =>
      have hMore :
          (f.more data).buf = head :: (rest ++ data) := by
        unfold more
        rw [hBuf, List.cons_append]
      have hState : (f.more data).state = f.state := rfl
      unfold next
      rw [hBuf, hMore, hState]
      dsimp only
      cases f.state with
      | version => exact nextVersion_more f data
      | security => exact nextSecurity_more f data hBuf
      | auth =>
          dsimp only
          by_cases hSeen : f.challengeSeen = true
          · have hReady : (f.more data).challengeSeen = true :=
              hSeen
            simp only [hSeen, hReady, Bool.not_true,
              Bool.false_eq_true, if_false]
            by_cases hShort : f.buf.length < vncAuthResponse
            · apply Carries.waits
              rw [← hBuf, if_pos hShort]
            · rcases read_append hShort data with
                ⟨hLong, hTake, hDrop⟩
              have hLonger :
                  ¬ (f.more data).buf.length <
                    vncAuthResponse := hLong
              rw [← hBuf, ← hMore, if_neg hShort,
                if_neg hLonger]
              simp only [pass, more, hTake, hDrop]
              exact .inr rfl
          · have hReady :
                (f.more data).challengeSeen ≠ true := hSeen
            simp only [hSeen, hReady, Bool.not_false, if_true]
            exact .refused _ _ _ _ _ _
      | init =>
          dsimp only
          by_cases hDone : f.securityDone = true
          · have hReady : ¬ (!f.securityDone) = true := by
              simp [hDone]
            have hReady' :
                ¬ (!(f.more data).securityDone) = true :=
              hReady
            rw [if_neg hReady, if_neg hReady']
            exact thenAdvance_more
              { f with
                buf := rest
                state := .messages
                sstate := .init } data [1] 1
          · have hReady :
                (f.more data).securityDone ≠ true := hDone
            simp only [hDone, hReady, Bool.not_false, if_true]
            exact .refused _ _ _ _ _ _
      | messages =>
          dsimp only
          by_cases hSeen : f.serverinitSeen = true
          · have hReady : (f.more data).serverinitSeen = true :=
              hSeen
            simp only [hSeen, hReady, Bool.not_true,
              Bool.false_eq_true, if_false]
            exact message_more f data
          · have hReady :
                (f.more data).serverinitSeen ≠ true := hSeen
            simp only [hSeen, hReady, Bool.not_false, if_true]
            exact .refused _ _ _ _ _ _

--------
-- Calls in Pieces
--------

open BigEndian Incremental

/- A unit of no bytes leaves the filter as it was. -/
theorem next_waits
    {f g : ViewOnlyFilter}
    {out : List Bytes}
    (hNext : next f = .ok (g, out, 0)) :
    g = f ∧ out = [] := by
  have hTakes := next_takes hNext
  generalize hTaken : (g, out, 0) = taken at hTakes
  cases hTakes with
  | waits =>
      cases hTaken
      exact ⟨rfl, rfl⟩
  | forwarded kind rest n _ _ hBuf hKind hLength =>
      rcases hKind with ⟨_, rfl⟩ | ⟨_, rfl⟩ <;> cases hTaken
  | encodings =>
      simp only [Prod.mk.injEq] at hTaken
      omega
  | dropped => cases hTaken
  | version => cases hTaken
  | security => cases hTaken
  | auth => cases hTaken
  | init => cases hTaken

/- The rest of a dropped message is discarded in pieces. -/
theorem turn_skips_more
    {f g : ViewOnlyFilter}
    {out : List Bytes}
    {again : Bool}
    (hSkip : f.skip ≠ 0)
    (hTurn : turn f = .ok (g, out, again))
    (data : Bytes) :
    out = [] ∧
      if again then
        turn (f.more data) = .ok (g.more data, out, again)
      else turn (f.more data) = turn (g.more data) := by
  unfold turn at hTurn
  rw [if_pos hSkip] at hTurn
  cases hTurn
  refine ⟨rfl, ?_⟩
  have hMore : turn (f.more data) =
      .ok ({ f with
          buf := (f.buf ++ data).drop
            (min f.skip (f.buf ++ data).length)
          skip := f.skip - min f.skip (f.buf ++ data).length },
        [], f.skip - min f.skip (f.buf ++ data).length = 0)
      := by
    have hSame : (f.more data).skip ≠ 0 := hSkip
    unfold turn
    rw [if_pos hSame]
    rfl
  rw [hMore]
  by_cases hEnough : f.skip ≤ f.buf.length
  · have hMin : min f.skip f.buf.length = f.skip := by omega
    have hMin' :
        min f.skip (f.buf ++ data).length = f.skip := by
      rw [List.length_append]
      omega
    have hDrop :
        (f.buf ++ data).drop f.skip =
          f.buf.drop f.skip ++ data :=
      List.drop_append_of_le_length hEnough
    simp only [hMin, hMin', Nat.sub_self, decide_true,
      if_true, more, hDrop]
  · have hMin : min f.skip f.buf.length = f.buf.length := by
      omega
    have hLeft : ¬ f.skip - f.buf.length = 0 := by omega
    simp only [hMin, hLeft, decide_false, Bool.false_eq_true,
      if_false, more, List.drop_length, List.nil_append]
    unfold turn
    rw [if_pos hLeft]
    dsimp only
    have hLength :
        min f.skip (f.buf ++ data).length =
          f.buf.length +
            min (f.skip - f.buf.length) data.length := by
      rw [List.length_append]
      omega
    rw [hLength, ← List.drop_drop, List.drop_left,
      Nat.sub_add_eq]

theorem turn_extends
    (data : Bytes) :
    Extends turn (more data) := by
  constructor
  case goes =>
    intro f g out hTurn
    by_cases hSkip : f.skip = 0
    · have hSame : (f.more data).skip = 0 := hSkip
      unfold turn at hTurn ⊢
      simp only [hSkip, hSame, ne_eq, not_true_eq_false,
        if_false] at hTurn ⊢
      have hNext := next_more f data
      rcases hUnit : next f with fault | ⟨g', out', taken⟩
      · rw [hUnit] at hTurn
        cases hTurn
      · rw [hUnit] at hTurn hNext
        dsimp only at hTurn
        rw [Except.ok.injEq, Prod.mk.injEq, Prod.mk.injEq]
          at hTurn
        rcases hTurn with ⟨rfl, rfl, hTaken⟩
        rw [decide_eq_true_eq] at hTaken
        rcases hNext with hZero | hMore
        · exact absurd hZero hTaken
        · rw [hMore]
          simp [hTaken]
    · have hMore := (turn_skips_more hSkip hTurn data).2
      rw [if_pos rfl] at hMore
      exact hMore
  case stops =>
    intro f g out hTurn
    by_cases hSkip : f.skip = 0
    · unfold turn at hTurn
      simp only [hSkip, ne_eq, not_true_eq_false, if_false]
        at hTurn
      rcases hUnit : next f with fault | ⟨g', out', taken⟩
      · rw [hUnit] at hTurn
        cases hTurn
      · rw [hUnit] at hTurn
        dsimp only at hTurn
        rw [Except.ok.injEq, Prod.mk.injEq, Prod.mk.injEq]
          at hTurn
        rcases hTurn with ⟨rfl, rfl, hTaken⟩
        have hZero : taken = 0 := by simpa using hTaken
        subst hZero
        rcases next_waits hUnit with ⟨rfl, rfl⟩
        exact ⟨rfl, rfl⟩
    · rcases turn_skips_more hSkip hTurn data with
        ⟨hOut, hMore⟩
      rw [if_neg (by simp)] at hMore
      exact ⟨hOut, hMore⟩
  case fails =>
    intro f fault hTurn
    by_cases hSkip : f.skip = 0
    · have hSame : (f.more data).skip = 0 := hSkip
      unfold turn at hTurn ⊢
      simp only [hSkip, hSame, ne_eq, not_true_eq_false,
        if_false] at hTurn ⊢
      have hNext := next_more f data
      rcases hUnit : next f with fault' | ⟨g', out', taken⟩
      · rw [hUnit] at hNext
        rcases hNext with ⟨fault'', hError⟩
        rw [hError]
        exact ⟨fault'', rfl⟩
      · rw [hUnit] at hTurn
        cases hTurn
    · unfold turn at hTurn
      rw [if_pos hSkip] at hTurn
      cases hTurn

theorem clientLoop_eq
    (turns : Nat)
    (f : ViewOnlyFilter) :
    clientLoop turns f = Incremental.loop turn turns f := by
  induction turns generalizing f with
  | zero => rfl
  | succ turns ih =>
      rw [clientLoop, Incremental.loop]
      rcases turn f with fault | ⟨g, out, again⟩
      · rfl
      · cases again with
        | false => rfl
        | true =>
            dsimp only
            rw [ih g]
            cases Incremental.loop turn turns g <;> rfl

/- A call that returns has settled on its bytes. -/
theorem run_iff
    (f g : ViewOnlyFilter)
    (data : Bytes)
    (out : List Bytes) :
    run f data = .ok (g, out) ↔
      Settles turn (f.more data) out g := by
  unfold run
  rw [clientLoop_eq]
  apply loop_iff_settles work
  · intro s s' out' hTurn
    exact (turn_turns hTurn).work_lt rfl
  · exact Nat.lt_succ_self _

theorem run_dead
    {f g : ViewOnlyFilter}
    {data : Bytes}
    {out : List Bytes}
    (hRun : run f data = .ok (g, out)) :
    g.dead = f.dead := by
  have hKeeps :
      ∀ g g' (_done units : List Bytes) again,
        Turns g g' units again →
          g.dead = f.dead → g'.dead = f.dead := by
    intro g g' _done units again hTurns hDead
    rw [← hDead]
    cases hTurns with
    | skips => rfl
    | takes _ _ taken _ hTakes =>
        cases hTakes with
        | waits => rfl
        | version _ _ _ _ _ _ hAdvance =>
            exact (advanceServer_sameClient hAdvance).dead
        | security choice rest offered _ _ _ _ _ hAdvance =>
            rw [(advanceServer_sameClient hAdvance).dead]
            unfold choose
            split
            · rfl
            · split <;> rfl
        | auth => rfl
        | init _ _ _ _ _ _ hAdvance =>
            exact (advanceServer_sameClient hAdvance).dead
        | forwarded => rfl
        | encodings => rfl
        | dropped => rfl
  exact @run_invariant (fun g _ => g.dead = f.dead) hKeeps
    f g data [] out rfl hRun

theorem feed_iff
    (f g : ViewOnlyFilter)
    (data : Bytes)
    (out : List Bytes) :
    f.feed data = (g, .ok out) ↔
      f.dead = false ∧ run f data = .ok (g, out) := by
  constructor
  · exact feed_ok
  · rintro ⟨hDead, hRun⟩
    unfold feed
    rw [hDead, hRun]
    rfl

/- The client's bytes may be cut anywhere. -/
theorem feed_append
    (f g : ViewOnlyFilter)
    (a b : Bytes)
    (out : List Bytes) :
    f.feed (a ++ b) = (g, .ok out) ↔
      ∃ f' before after, f.feed a = (f', .ok before) ∧
        f'.feed b = (g, .ok after) ∧
        out = before ++ after := by
  have hMore : f.more (a ++ b) = (f.more a).more b := by
    unfold more
    rw [List.append_assoc]
  rw [feed_iff, run_iff, hMore, (turn_extends b).settles_iff]
  constructor
  · rintro ⟨hDead, f', before, after, hBefore, hAfter, hOut⟩
    have hRun := (run_iff f f' a before).mpr hBefore
    refine ⟨f', before, after, ?_, ?_, hOut⟩
    · exact (feed_iff f f' a before).mpr ⟨hDead, hRun⟩
    · refine (feed_iff f' g b after).mpr ⟨?_, ?_⟩
      · rw [run_dead hRun, hDead]
      · exact (run_iff f' g b after).mpr hAfter
  · rintro ⟨f', before, after, hBefore, hAfter, hOut⟩
    rcases feed_ok hBefore with ⟨hDead, hRun⟩
    exact ⟨hDead, f', before, after,
      (run_iff f f' a before).mp hRun,
      (run_iff f' g b after).mp (feed_ok hAfter).2, hOut⟩

/-
  Nothing is kept of the server's bytes once it is done:
  what follows its last item is the framebuffer stream.
-/
theorem advanceServer_done
    {f f' : ViewOnlyFilter}
    (hHeld : f.sstate ≠ .done)
    (hAdvance : advanceServer f = .ok f')
    (hDone : f'.sstate = .done) :
    f'.sbuf = [] := by
  refine advanceServer_invariant
    (fun g => g.sstate = .done → g.sbuf = []) ?_
    (fun hNot => absurd hNot hHeld) hAdvance hDone
  intro g g' again hTakes hKept hDone'
  cases hTakes with
  | waits => exact hKept hDone'
  | init => rfl
  | version => cases hDone'
  | list => cases hDone'
  | challenge => cases hDone'
  | result => cases hDone'

/- The states in which the server's bytes only pile up. -/
def serverWaits : ServerState → Bool
| .versionWait => true
| .choiceWait => true
| .initWait => true
| _ => false

/- What waits for the end of an item is within bounds. -/
theorem serverItem_waits_length
    {f : ViewOnlyFilter}
    (hItem : serverItem f = .ok (f, false))
    (hHeld : f.sstate ≠ .done) :
    serverWaits f.sstate = true ∨
      f.sbuf.length ≤ maxServerBuf := by
  have hBound : maxServerBuf = 4184 := rfl
  unfold serverItem at hItem
  cases hState : f.sstate with
  | versionWait => exact .inl rfl
  | choiceWait => exact .inl rfl
  | initWait => exact .inl rfl
  | done => exact absurd hState hHeld
  | version =>
      right
      rw [hState] at hItem
      by_contra hLong
      have hShort : ¬ f.sbuf.length < 12 := by omega
      simp only [hShort, if_false] at hItem
      split at hItem <;> simp [refuse] at hItem
  | challenge =>
      right
      rw [hState] at hItem
      by_contra hLong
      have hShort : ¬ f.sbuf.length < vncAuthResponse := by
        have hResponse : vncAuthResponse = 16 := rfl
        omega
      simp [hShort] at hItem
  | result =>
      right
      rw [hState] at hItem
      by_contra hLong
      have hShort : ¬ f.sbuf.length < 4 := by omega
      simp only [hShort, if_false] at hItem
      split at hItem <;> simp [refuse] at hItem
  | list =>
      right
      rw [hState] at hItem
      cases hBuf : f.sbuf with
      | nil => exact Nat.zero_le _
      | cons count types =>
          rw [hBuf] at hItem
          have hCount : count.toNat < 256 := count.toNat_lt
          by_contra hLong
          rw [List.length_cons] at hLong
          have hShort : ¬ types.length < count.toNat := by
            omega
          simp only [hShort, if_false] at hItem
          split at hItem <;> simp [refuse] at hItem
  | init =>
      right
      rw [hState] at hItem
      by_contra hLong
      have hShort : ¬ f.sbuf.length < 24 := by omega
      have hName : maxName = 4096 := rfl
      by_cases hBig : natAt 4 20 f.sbuf > maxName
      · simp only [hShort, hBig, if_false, if_true]
          at hItem
        cases hItem
      · have hPart :
            ¬ f.sbuf.length < 24 + natAt 4 20 f.sbuf := by
          omega
        simp only [hShort, hBig, hPart, if_false,
          Except.ok.injEq, Prod.mk.injEq] at hItem
        have hDone := congrArg sstate hItem.1
        rw [hState] at hDone
        cases hDone

theorem serverItem_waiting
    {f : ViewOnlyFilter}
    (hWaiting : serverWaits f.sstate = true) :
    serverItem f = .ok (f, false) := by
  unfold serverItem
  cases hState : f.sstate <;> rw [hState] at hWaiting <;>
    first | rfl | cases hWaiting

theorem advanceServer_waits
    {f : ViewOnlyFilter}
    (hItem : serverItem f = .ok (f, false)) :
    advanceServer f = .ok f := by
  unfold advanceServer
  rw [serverLoop, hItem]

theorem serverItem_done
    {f : ViewOnlyFilter}
    (hDone : f.sstate = .done) :
    serverItem f = .ok (f, false) := by
  unfold serverItem
  rw [hDone]

theorem feedServer_iff
    (f g : ViewOnlyFilter)
    (data : Bytes) :
    f.feedServer data = (g, .ok ()) ↔
      f.dead = false ∧
        advanceServer (f.serverMore data) = .ok g ∧
        (f.sstate = .done ∨ g.sbuf.length ≤ maxServerBuf) := by
  constructor
  · intro hFeed
    rcases feedServer_ok hFeed with ⟨hDead, hCase⟩
    by_cases hDone : f.sstate = .done
    · rcases hCase with ⟨_, rfl⟩ | ⟨hAdvance, _⟩
      · rw [serverMore_done hDone]
        exact ⟨hDead,
          advanceServer_waits (serverItem_done hDone),
          .inl hDone⟩
      · unfold feedServer at hFeed
        rw [hDead, if_neg Bool.false_ne_true, if_pos hDone]
          at hFeed
        cases hFeed
        rw [serverMore_done hDone]
        exact ⟨hDead,
          advanceServer_waits (serverItem_done hDone),
          .inl hDone⟩
    · rcases hCase with ⟨hNot, _⟩ | ⟨hAdvance, hBound⟩
      · exact absurd hNot hDone
      · rw [serverMore_held hDone]
        exact ⟨hDead, hAdvance, .inr hBound⟩
  · rintro ⟨hDead, hAdvance, hBound⟩
    have hAlive : ¬ f.dead = true := by simp [hDead]
    unfold feedServer
    rw [if_neg hAlive]
    by_cases hDone : f.sstate = .done
    · rw [serverMore_done hDone,
        advanceServer_waits (serverItem_done hDone)]
        at hAdvance
      cases hAdvance
      rw [if_pos hDone]
    · rw [serverMore_held hDone] at hAdvance
      rw [if_neg hDone, hAdvance]
      dsimp only
      rw [if_neg]
      have hSmall := hBound.resolve_left hDone
      omega

theorem serverMore_append
    (f : ViewOnlyFilter)
    (a b : Bytes) :
    f.serverMore (a ++ b) = (f.serverMore a).serverMore b := by
  by_cases hDone : f.sstate = .done
  · rw [serverMore_done hDone, serverMore_done hDone,
      serverMore_done hDone]
  · have hHeld : (f.serverMore a).sstate ≠ .done := by
      rw [serverMore_held hDone]
      exact hDone
    rw [serverMore_held hHeld, serverMore_held hDone,
      serverMore_held hDone, List.append_assoc]

/- The server's bytes may be cut anywhere. -/
theorem feedServer_append
    (f g : ViewOnlyFilter)
    (a b : Bytes) :
    f.feedServer (a ++ b) = (g, .ok ()) ↔
      ∃ f', f.feedServer a = (f', .ok ()) ∧
        f'.feedServer b = (g, .ok ()) := by
  have hSameDead : ∀ f',
      advanceServer (f.serverMore a) = .ok f' →
        f'.dead = f.dead := by
    intro f' hAdvance
    rw [(advanceServer_sameClient hAdvance).dead]
    unfold serverMore
    split <;> rfl
  rw [feedServer_iff, serverMore_append, advanceServer_more]
  constructor
  · rintro ⟨hDead, ⟨f', hBefore, hAfter⟩, hBound⟩
    refine ⟨f', (feedServer_iff f f' a).mpr
      ⟨hDead, hBefore, ?_⟩, (feedServer_iff f' g b).mpr
      ⟨(hSameDead f' hBefore).trans hDead, hAfter, ?_⟩⟩
    · by_cases hDone : f.sstate = .done
      · exact .inl hDone
      · right
        have hHeld : (f.serverMore a).sstate ≠ .done := by
          rw [serverMore_held hDone]
          exact hDone
        by_cases hDone' : f'.sstate = .done
        · rw [advanceServer_done hHeld hBefore hDone']
          exact Nat.zero_le _
        · rcases serverItem_waits_length
              (advanceServer_settled hBefore) hDone' with
            hWaiting | hLength
          · -- the bytes of both pieces pile up
            have hStays :
                advanceServer { f' with sbuf := f'.sbuf ++ b } =
                  .ok { f' with sbuf := f'.sbuf ++ b } :=
              advanceServer_waits
                (serverItem_waiting hWaiting)
            rw [serverMore_held hDone', hStays] at hAfter
            cases hAfter
            have hBoth := hBound.resolve_left hDone
            rw [List.length_append] at hBoth
            omega
          · exact hLength
    · rcases hBound with hDone | hLength
      · left
        rw [serverMore_done hDone,
          advanceServer_waits (serverItem_done hDone)]
          at hBefore
        cases hBefore
        exact hDone
      · exact .inr hLength
  · rintro ⟨f', hFirst, hSecond⟩
    rcases (feedServer_iff f f' a).mp hFirst with
      ⟨hDead, hBefore, hBound⟩
    rcases (feedServer_iff f' g b).mp hSecond with
      ⟨_, hAfter, hBound'⟩
    refine ⟨hDead, ⟨f', hBefore, hAfter⟩, ?_⟩
    rcases hBound' with hDone | hLength
    · rw [serverMore_done hDone,
        advanceServer_waits (serverItem_done hDone)]
        at hAfter
      cases hAfter
      exact hBound
    · exact .inr hLength

end ViewOnlyFilter

end ConsoleRelay

end TrueNorth
