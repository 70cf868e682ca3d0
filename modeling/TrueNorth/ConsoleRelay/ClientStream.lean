import TrueNorth.ConsoleRelay.Chunks

/-
  A client's stream past the handshake, read as a whole: its
  parse into messages, and what a view-only console makes of
  each.  What the filter forwards is this function of the
  stream, however the stream was cut.

  Key definitions include:
    * `Head`
    * `clientMessages`
    * `viewOnly`

  Main theorem:
    * `Console.chunks_immaterial`
-/

--------
-- The Parse of a Stream
--------

namespace TrueNorth

namespace ConsoleRelay

open BigEndian ViewOnlyFilter

/- What the head of a stream says of its first message. -/
inductive Head where
-- its length is not there yet
| unfinished
| message (n : Nat)
-- an unknown kind, or more than is allowed
| refused

def head (stream : Bytes) : Head :=
  match stream with
  | [] => .unfinished
  | kind :: _ =>
      if kind = 0 then .message 20
      else if kind = 3 then .message 10
      else if kind = 2 then
        if stream.length < 4 then .unfinished
        else if natAt 2 2 stream > maxEncodings then .refused
        else .message (4 + 4 * natAt 2 2 stream)
      else if kind = 4 then .message 8
      else if kind = 5 then .message 6
      else if kind = 6 then
        if stream.length < 8 then .unfinished
        else if natAt 4 4 stream > maxCutText then .refused
        else .message (8 + natAt 4 4 stream)
      else .refused

/-
  The whole messages of a stream, in order; one the stream
  ends inside is left out.  `none` for a refused stream.
-/
def messagesWith :
    Nat → Bytes → Option (List Bytes)
| 0, _ => some []
| fuel + 1, stream =>
    match head stream with
    | .unfinished => some []
    | .refused => none
    | .message n =>
        if stream.length < n then
          some []
        else
          match messagesWith fuel (stream.drop n) with
          | none => none
          | some messages => some (stream.take n :: messages)

/- A message takes at least a byte. -/
def clientMessages (stream : Bytes) : Option (List Bytes) :=
  messagesWith stream.length stream

/-
  A view-only console passes types 0 and 3 on as they are
  and type 2 without the stripped codes, and drops the rest.
-/
def viewOnly (message : Bytes) : List Bytes :=
  match message.head? with
  | none => []
  | some kind =>
      if kind = 0 ∨ kind = 3 then
        [message]
      else if kind = 2 then
        let codes :=
          ints32 (natAt 2 2 message) (message.drop 4)
        [setEncodings (codes.filter
          (fun code => !stripped code))]
      else
        []

theorem head_message_pos
    {stream : Bytes}
    {n : Nat}
    (hHead : head stream = .message n) :
    0 < n := by
  unfold head at hHead
  split at hHead
  · cases hHead
  · split_ifs at hHead <;> cases hHead <;> omega

/- Fuel for the length of the stream is enough. -/
theorem messagesWith_eq
    {fuel : Nat}
    {stream : Bytes}
    (hFuel : stream.length ≤ fuel) :
    messagesWith fuel stream = clientMessages stream := by
  suffices hSame : ∀ fuel fuel' (stream : Bytes),
      stream.length ≤ fuel → stream.length ≤ fuel' →
      messagesWith fuel stream = messagesWith fuel' stream
      from hSame _ _ _ hFuel (Nat.le_refl _)
  intro fuel
  induction fuel with
  | zero =>
      intro fuel' stream hFuel _
      have hNil : stream = [] :=
        List.eq_nil_of_length_eq_zero (by omega)
      subst hNil
      cases fuel' <;> rfl
  | succ fuel ih =>
      intro fuel' stream hFuel hFuel'
      cases fuel' with
      | zero =>
          have hNil : stream = [] :=
            List.eq_nil_of_length_eq_zero (by omega)
          subst hNil
          rfl
      | succ fuel' =>
          rw [messagesWith, messagesWith]
          cases hHead : head stream with
          | unfinished => rfl
          | refused => rfl
          | message n =>
              have hPos := head_message_pos hHead
              have hDrop := List.length_drop (i := n) (l := stream)
              dsimp only
              by_cases hShort : stream.length < n
              · rw [if_pos hShort, if_pos hShort]
              · rw [if_neg hShort, if_neg hShort,
                  ih fuel' (stream.drop n) (by omega)
                    (by omega)]

theorem clientMessages_eq (stream : Bytes) :
    clientMessages stream =
      match head stream with
      | .unfinished => some []
      | .refused => none
      | .message n =>
          if stream.length < n then
            some []
          else
            match clientMessages (stream.drop n) with
            | none => none
            | some messages =>
                some (stream.take n :: messages) := by
  rw [← messagesWith_eq (Nat.le_succ stream.length),
    messagesWith]
  cases hHead : head stream with
  | unfinished => rfl
  | refused => rfl
  | message n =>
      dsimp only
      rw [messagesWith_eq]
      rw [List.length_drop]
      omega

end ConsoleRelay

end TrueNorth

--------
-- The Filter Follows the Parse
--------

namespace TrueNorth

namespace ConsoleRelay

namespace ViewOnlyFilter

open BigEndian Incremental

variable {f g : ViewOnlyFilter}
variable {out : List Bytes}

/- A turn past the handshake judges one message. -/
theorem turn_message
    (hReady : f.handshaken = true)
    (hSkip : f.skip = 0)
    (hBuf : f.buf ≠ []) :
    turn f =
      match message f with
      | .error fault => .error fault
      | .ok (f', out, taken) => .ok (f', out, taken ≠ 0) := by
  unfold handshaken at hReady
  rw [Bool.and_eq_true, beq_iff_eq] at hReady
  rcases hReady with ⟨hState, hSeen⟩
  have hNone : ¬ f.skip ≠ 0 := fun hNot => hNot hSkip
  unfold turn
  rw [if_neg hNone]
  cases hHead : f.buf with
  | nil => exact absurd hHead hBuf
  | cons kind rest =>
      unfold next
      rw [hHead, hState, hSeen]
      rfl

theorem turn_empty
    (hSkip : f.skip = 0)
    (hBuf : f.buf = []) :
    turn f = .ok (f, [], false) := by
  have hNone : ¬ f.skip ≠ 0 := fun hNot => hNot hSkip
  unfold turn next
  rw [if_neg hNone, hBuf]
  rfl

/- A message that is dropped is skipped once it is whole. -/
theorem settles_dropped
    {n : Nat}
    (hSkip : f.skip = 0)
    (hPos : 0 < n)
    (hTurn : turn f =
      .ok ((dropMessage f n).1, [], true))
    (out : List Bytes) :
    (∃ g, Settles turn f out g) ↔
      if f.buf.length < n then
        out = []
      else
        ∃ g, Settles turn
          { f with
            buf := f.buf.drop n
            dropped := f.dropped + 1 } out g := by
  have hLeft : (dropMessage f n).1.skip ≠ 0 := by
    show n ≠ 0
    omega
  have hNext : turn (dropMessage f n).1 =
      .ok ({ f with
          buf := f.buf.drop (min n f.buf.length)
          skip := n - min n f.buf.length
          dropped := f.dropped + 1 },
        [], n - min n f.buf.length = 0) := by
    unfold turn
    rw [if_pos hLeft]
    rfl
  by_cases hShort : f.buf.length < n
  · have hSome : ¬ n - min n f.buf.length = 0 := by omega
    rw [if_pos hShort]
    simp only [hSome, decide_false] at hNext
    constructor
    · rintro ⟨g, hSettles⟩
      rcases (settles_goes_iff hTurn).mp hSettles with
        ⟨rest, rfl, hRest⟩
      rw [(settles_stops_iff hNext).mp hRest |>.1]
    · rintro rfl
      exact ⟨_, (settles_goes_iff hTurn).mpr
        ⟨[], rfl, (settles_stops_iff hNext).mpr ⟨rfl, rfl⟩⟩⟩
  · have hAll : min n f.buf.length = n := by omega
    rw [if_neg hShort]
    rw [hAll] at hNext
    simp only [Nat.sub_self, decide_true] at hNext
    have hSame :
        { f with
          buf := f.buf.drop n
          skip := 0
          dropped := f.dropped + 1 } =
        { f with
          buf := f.buf.drop n
          dropped := f.dropped + 1 } := by
      rw [hSkip]
    rw [hSame] at hNext
    constructor
    · rintro ⟨g, hSettles⟩
      rcases (settles_goes_iff hTurn).mp hSettles with
        ⟨rest, rfl, hRest⟩
      rcases (settles_goes_iff hNext).mp hRest with
        ⟨rest', rfl, hRest'⟩
      exact ⟨g, hRest'⟩
    · rintro ⟨g, hRest⟩
      exact ⟨g, (settles_goes_iff hTurn).mpr ⟨out, rfl,
        (settles_goes_iff hNext).mpr ⟨out, rfl, hRest⟩⟩⟩

theorem viewOnly_take
    {kind : UInt8}
    {rest : Bytes}
    {n : Nat}
    (hBuf : f.buf = kind :: rest)
    (hPos : 0 < n) :
    (f.buf.take n).head? = some kind := by
  rw [hBuf, List.head?_take]
  simp [Nat.ne_of_gt hPos]

/- What a SetEncodings says lies within it. -/
theorem viewOnly_encodings
    {rest : Bytes}
    (hBuf : f.buf = 2 :: rest)
    (hLength : 4 + 4 * natAt 2 2 f.buf ≤ f.buf.length) :
    viewOnly (f.buf.take (4 + 4 * natAt 2 2 f.buf)) =
      [setEncodings
        ((ints32 (natAt 2 2 f.buf) (f.buf.drop 4)).filter
          (fun code => !stripped code))] := by
  generalize hCount : natAt 2 2 f.buf = count at hLength ⊢
  have hSplit := List.take_append_drop (4 + 4 * count) f.buf
  have hTake :
      (f.buf.take (4 + 4 * count)).length = 4 + 4 * count := by
    rw [List.length_take]
    omega
  have hSame :
      natAt 2 2 (f.buf.take (4 + 4 * count)) = count := by
    rw [← hCount]
    conv => rhs; rw [← hSplit]
    rw [hCount]
    exact (natAt_append (by omega) _).symm
  have hCodes :
      ints32 count ((f.buf.take (4 + 4 * count)).drop 4) =
        ints32 count (f.buf.drop 4) := by
    conv => rhs; rw [← hSplit]
    rw [List.drop_append_of_le_length (by omega)]
    refine (ints32_more count ?_ _).symm
    rw [List.length_drop]
    omega
  unfold viewOnly
  rw [viewOnly_take hBuf (by omega)]
  simp only [hSame, hCodes]
  rfl

/- What the filter makes of the message the parse sees. -/
theorem message_judged (f : ViewOnlyFilter) :
    match head f.buf with
    | .unfinished => message f = .ok (f, [], 0)
    | .refused => ∃ fault, message f = .error fault
    | .message n =>
        (message f = .ok (dropMessage f n) ∧
          viewOnly (f.buf.take n) = []) ∨
        message f = .ok
          (if f.buf.length < n then (f, [], 0)
          else
            ({ f with buf := f.buf.drop n },
              viewOnly (f.buf.take n), n)) := by
  cases hBuf : f.buf with
  | nil =>
      unfold message
      rw [hBuf]
      rfl
  | cons kind rest =>
      have hTake : ∀ n, 0 < n →
          viewOnly (f.buf.take n) =
            if kind = 0 ∨ kind = 3 then [f.buf.take n]
            else if kind = 2 then
              [setEncodings
                ((ints32 (natAt 2 2 (f.buf.take n))
                  ((f.buf.take n).drop 4)).filter
                    (fun code => !stripped code))]
            else [] := by
        intro n hPos
        unfold viewOnly
        rw [viewOnly_take hBuf hPos]
      unfold head message
      rw [hBuf]
      dsimp only
      rw [← hBuf]
      by_cases hPixel : kind = 0
      · rw [if_pos hPixel, if_pos hPixel]
        right
        have hSame := hTake 20 (by omega)
        rw [if_pos (Or.inl hPixel)] at hSame
        rw [hSame]
        unfold forwardMessage
        split <;> rfl
      rw [if_neg hPixel, if_neg hPixel]
      by_cases hUpdate : kind = 3
      · rw [if_pos hUpdate, if_pos hUpdate]
        right
        have hSame := hTake 10 (by omega)
        rw [if_pos (Or.inr hUpdate)] at hSame
        rw [hSame]
        unfold forwardMessage
        split <;> rfl
      rw [if_neg hUpdate, if_neg hUpdate]
      by_cases hEncodings : kind = 2
      · rw [if_pos hEncodings, if_pos hEncodings]
        subst hEncodings
        unfold encodingsMessage
        by_cases hShort : f.buf.length < 4
        · rw [if_pos hShort, if_pos hShort]
        rw [if_neg hShort, if_neg hShort]
        by_cases hMany : natAt 2 2 f.buf > maxEncodings
        · rw [if_pos hMany]
          simp only [hMany, if_true]
          exact ⟨_, rfl⟩
        rw [if_neg hMany]
        simp only [hMany, if_false]
        right
        by_cases hPart :
            f.buf.length < 4 + 4 * natAt 2 2 f.buf
        · rw [if_pos hPart, if_pos hPart]
        · rw [if_neg hPart, if_neg hPart,
            viewOnly_encodings hBuf (by omega)]
      rw [if_neg hEncodings, if_neg hEncodings]
      have hDropped : ∀ n, 0 < n →
          viewOnly (f.buf.take n) = [] := by
        intro n hPos
        rw [hTake n hPos, if_neg (by simp [hPixel, hUpdate]),
          if_neg hEncodings]
      by_cases hKey : kind = 4
      · rw [if_pos hKey, if_pos hKey]
        exact .inl ⟨rfl, hDropped 8 (by omega)⟩
      rw [if_neg hKey, if_neg hKey]
      by_cases hPointer : kind = 5
      · rw [if_pos hPointer, if_pos hPointer]
        exact .inl ⟨rfl, hDropped 6 (by omega)⟩
      rw [if_neg hPointer, if_neg hPointer]
      by_cases hCut : kind = 6
      · rw [if_pos hCut, if_pos hCut]
        unfold cutTextMessage
        by_cases hShort : f.buf.length < 8
        · rw [if_pos hShort, if_pos hShort]
        rw [if_neg hShort, if_neg hShort]
        by_cases hBig : natAt 4 4 f.buf > maxCutText
        · rw [if_pos hBig]
          simp only [hBig, if_true]
          exact ⟨_, rfl⟩
        rw [if_neg hBig]
        simp only [hBig, if_false]
        exact .inl ⟨trivial, hDropped _ (by omega)⟩
      rw [if_neg hCut, if_neg hCut]
      exact ⟨_, rfl⟩

/-
  Between two messages the loop forwards what the parse of
  the buffer says, and fails where the parse does.  By
  induction on the buffer, one message at a time.
-/
theorem settles_iff_messages
    (hReady : f.handshaken = true)
    (hSkip : f.skip = 0) :
    (∃ g, Settles turn f out g) ↔
      ∃ messages, clientMessages f.buf = some messages ∧
        out = messages.flatMap viewOnly := by
  generalize hSize : f.buf.length = size
  induction size using Nat.strongRecOn
    generalizing f out with
  | ind size ih =>
  -- what the messages after this one come to
  have hRest : ∀ n dropped out,
      0 < n → ¬ f.buf.length < n →
      ((∃ g, Settles turn
          { f with
            buf := f.buf.drop n
            dropped := dropped } out g) ↔
        ∃ messages,
          clientMessages (f.buf.drop n) = some messages ∧
            out = messages.flatMap viewOnly) := by
    intro n dropped out hPos hLong
    have hLength := List.length_drop (i := n) (l := f.buf)
    exact ih (f.buf.drop n).length (by omega) hReady hSkip
      rfl
  by_cases hBuf : f.buf = []
  · rw [hBuf]
    constructor
    · rintro ⟨g, hSettles⟩
      exact ⟨[], rfl, ((settles_stops_iff
        (turn_empty hSkip hBuf)).mp hSettles).1⟩
    · rintro ⟨messages, hMessages, rfl⟩
      cases hMessages
      exact ⟨f, .stops (turn_empty hSkip hBuf)⟩
  have hTurn := turn_message hReady hSkip hBuf
  have hJudged := message_judged f
  rw [clientMessages_eq]
  cases hHead : head f.buf with
  | unfinished =>
      rw [hHead] at hJudged
      dsimp only at hJudged
      rw [hJudged] at hTurn
      constructor
      · rintro ⟨g, hSettles⟩
        exact ⟨[], rfl,
          ((settles_stops_iff hTurn).mp hSettles).1⟩
      · rintro ⟨messages, hMessages, rfl⟩
        cases hMessages
        exact ⟨f, .stops hTurn⟩
  | refused =>
      rw [hHead] at hJudged
      rcases hJudged with ⟨fault, hError⟩
      rw [hError] at hTurn
      constructor
      · rintro ⟨g, hSettles⟩
        exact absurd hSettles (not_settles_of_error hTurn)
      · rintro ⟨messages, hMessages, _⟩
        cases hMessages
  | message n =>
      have hPos := head_message_pos hHead
      rw [hHead] at hJudged
      dsimp only at hJudged ⊢
      by_cases hShort : f.buf.length < n
      · rw [if_pos hShort]
        have hNone :
            (∃ g, Settles turn f out g) ↔ out = [] := by
          rcases hJudged with ⟨hDrop, _⟩ | hForward
          · rw [hDrop] at hTurn
            have hSettles := settles_dropped hSkip hPos hTurn out
            rwa [if_pos hShort] at hSettles
          · rw [hForward, if_pos hShort] at hTurn
            constructor
            · rintro ⟨g, hSettles⟩
              exact ((settles_stops_iff hTurn).mp hSettles).1
            · rintro rfl
              exact ⟨f, .stops hTurn⟩
        rw [hNone]
        constructor
        · rintro rfl
          exact ⟨[], rfl, rfl⟩
        · rintro ⟨messages, hMessages, rfl⟩
          cases hMessages
          rfl
      · rw [if_neg hShort]
        have hFirst :
            (∃ g, Settles turn f out g) ↔
              ∃ rest messages,
                out = viewOnly (f.buf.take n) ++ rest ∧
                  clientMessages (f.buf.drop n) =
                    some messages ∧
                  rest = messages.flatMap viewOnly := by
          rcases hJudged with ⟨hDrop, hNothing⟩ | hForward
          · rw [hDrop] at hTurn
            have hSettles := settles_dropped hSkip hPos hTurn out
            rw [if_neg hShort] at hSettles
            rw [hSettles, hRest n _ out hPos hShort, hNothing]
            constructor
            · rintro ⟨messages, hMessages, hOut⟩
              exact ⟨out, messages, rfl, hMessages, hOut⟩
            · rintro ⟨rest, messages, rfl, hMessages, hOut⟩
              exact ⟨messages, hMessages, hOut⟩
          · rw [hForward, if_neg hShort] at hTurn
            have hAgain : decide (n ≠ 0) = true := by
              simpa using Nat.ne_of_gt hPos
            simp only [hAgain] at hTurn
            constructor
            · rintro ⟨g, hSettles⟩
              rcases (settles_goes_iff hTurn).mp hSettles with
                ⟨rest, hOut, hAfter⟩
              rcases (hRest n f.dropped rest hPos hShort).mp
                  ⟨g, hAfter⟩ with ⟨messages, hMessages, hMore⟩
              exact ⟨rest, messages, hOut, hMessages, hMore⟩
            · rintro ⟨rest, messages, hOut, hMessages, hMore⟩
              rcases (hRest n f.dropped rest hPos hShort).mpr
                  ⟨messages, hMessages, hMore⟩ with
                ⟨g, hAfter⟩
              exact ⟨g, (settles_goes_iff hTurn).mpr
                ⟨rest, hOut, hAfter⟩⟩
        rw [hFirst]
        cases hMore : clientMessages (f.buf.drop n) with
        | none =>
            constructor
            · rintro ⟨_, _, _, hMessages, _⟩
              cases hMessages
            · rintro ⟨_, hMessages, _⟩
              cases hMessages
        | some messages =>
            constructor
            · rintro ⟨rest, _, rfl, hMessages, rfl⟩
              cases hMessages
              exact ⟨_, rfl, rfl⟩
            · rintro ⟨_, hMessages, rfl⟩
              cases hMessages
              exact ⟨_, messages, rfl, rfl, rfl⟩

/- The rest of a dropped message is not part of the parse. -/
theorem settles_iff_stream
    (hReady : f.handshaken = true) :
    (∃ g, Settles turn f out g) ↔
      ∃ messages,
        clientMessages (f.buf.drop f.skip) = some messages ∧
          out = messages.flatMap viewOnly := by
  by_cases hSkip : f.skip = 0
  · rw [hSkip]
    exact settles_iff_messages hReady hSkip
  have hTurn : turn f =
      .ok ({ f with
          buf := f.buf.drop (min f.skip f.buf.length)
          skip := f.skip - min f.skip f.buf.length },
        [], f.skip - min f.skip f.buf.length = 0) := by
    unfold turn
    rw [if_pos hSkip]
  by_cases hShort : f.buf.length < f.skip
  · have hSome :
        ¬ f.skip - min f.skip f.buf.length = 0 := by
      omega
    have hNil : f.buf.drop f.skip = [] :=
      List.drop_eq_nil_of_le (by omega)
    simp only [hSome, decide_false] at hTurn
    rw [hNil]
    constructor
    · rintro ⟨g, hSettles⟩
      exact ⟨[], rfl,
        ((settles_stops_iff hTurn).mp hSettles).1⟩
    · rintro ⟨messages, hMessages, rfl⟩
      cases hMessages
      exact ⟨_, .stops hTurn⟩
  · have hAll : min f.skip f.buf.length = f.skip := by omega
    rw [hAll] at hTurn
    simp only [Nat.sub_self, decide_true] at hTurn
    rw [← settles_iff_messages (f :=
      { f with buf := f.buf.drop f.skip, skip := 0 })
      hReady rfl]
    constructor
    · rintro ⟨g, hSettles⟩
      rcases (settles_goes_iff hTurn).mp hSettles with
        ⟨rest, rfl, hAfter⟩
      exact ⟨g, hAfter⟩
    · rintro ⟨g, hAfter⟩
      exact ⟨g, (settles_goes_iff hTurn).mpr
        ⟨out, rfl, hAfter⟩⟩

--------
-- Filters at Rest
--------

open BigEndian Incremental

variable {f g : ViewOnlyFilter}

/- The end of the server's side, as the client's knows it. -/
structure Paired (f : ViewOnlyFilter) : Prop where
  opened : f.sstate = .init → f.state = .messages
  seen :
    f.serverinitSeen = true →
      f.state = .messages ∧ f.sstate = .done

theorem Paired.serverTakes
    {again : Bool}
    (hPaired : Paired f)
    (hTakes : ServerTakes f g again) :
    Paired g := by
  -- an item taken before the last leaves nothing seen
  have hUnseen : f.sstate ≠ .done →
      f.serverinitSeen ≠ true :=
    fun hHeld hSeen => hHeld (hPaired.seen hSeen).2
  cases hTakes with
  | waits => exact hPaired
  | version hState =>
      refine ⟨nofun, fun hSeen => ?_⟩
      exact absurd hSeen (hUnseen (by simp [hState]))
  | list _ _ hState =>
      refine ⟨nofun, fun hSeen => ?_⟩
      exact absurd hSeen (hUnseen (by simp [hState]))
  | challenge hState =>
      refine ⟨nofun, fun hSeen => ?_⟩
      exact absurd hSeen (hUnseen (by simp [hState]))
  | result hState =>
      refine ⟨nofun, fun hSeen => ?_⟩
      exact absurd hSeen (hUnseen (by simp [hState]))
  | init hState =>
      exact ⟨fun _ => hPaired.opened hState,
        fun _ => ⟨hPaired.opened hState, rfl⟩⟩

theorem Paired.advanceServer
    (hPaired : Paired f)
    (hAdvance : advanceServer f = .ok g) :
    Paired g :=
  advanceServer_invariant Paired
    (fun _ _ _ hTakes hPaired => hPaired.serverTakes hTakes)
    hPaired hAdvance

theorem choose_sstate
    (f : ViewOnlyFilter)
    (choice : UInt8) :
    (f.choose choice).sstate ≠ .init ∧
      (f.choose choice).serverinitSeen =
        f.serverinitSeen := by
  unfold choose
  split
  · exact ⟨nofun, rfl⟩
  · split
    · exact ⟨nofun, rfl⟩
    · exact ⟨nofun, rfl⟩

theorem Paired.takes
    {out : List Bytes}
    {taken : Nat}
    (hPaired : Paired f)
    (hTakes : Takes f (g, out, taken)) :
    Paired g := by
  have hUnseen : f.state ≠ .messages →
      f.serverinitSeen ≠ true :=
    fun hEarly hSeen => hEarly (hPaired.seen hSeen).1
  cases hTakes with
  | waits => exact hPaired
  | version _ hState _ _ _ _ hAdvance =>
      refine Paired.advanceServer ⟨?_, ?_⟩ hAdvance
      · intro hInit
        cases hInit
      · intro hSeen
        exact absurd hSeen (hUnseen (by simp [hState]))
  | security choice _ _ _ hState _ _ _ hAdvance =>
      rcases choose_sstate f choice with ⟨hNever, hSame⟩
      refine Paired.advanceServer ⟨?_, ?_⟩ hAdvance
      · intro hInit
        exact absurd hInit hNever
      · intro hSeen
        exact absurd (hSame.symm.trans hSeen)
          (hUnseen (by simp [hState]))
  | auth hState =>
      refine ⟨?_, ?_⟩
      · intro hInit
        have hEarly := hPaired.opened hInit
        rw [hState] at hEarly
        cases hEarly
      · intro hSeen
        exact absurd hSeen (hUnseen (by simp [hState]))
  | init _ _ _ hState _ _ hAdvance =>
      refine Paired.advanceServer ⟨fun _ => rfl, ?_⟩ hAdvance
      intro hSeen
      exact absurd hSeen (hUnseen (by simp [hState]))
  | forwarded => exact ⟨hPaired.opened, hPaired.seen⟩
  | encodings => exact ⟨hPaired.opened, hPaired.seen⟩
  | dropped => exact ⟨hPaired.opened, hPaired.seen⟩

theorem Paired.run
    {data : Bytes}
    {out : List Bytes}
    (hPaired : Paired f)
    (hRun : run f data = .ok (g, out)) :
    Paired g := by
  have hKeeps :
      ∀ g g' (_done units : List Bytes) again,
        Turns g g' units again → Paired g → Paired g' := by
    intro g g' _done units again hTurns hPaired
    cases hTurns with
    | skips => exact ⟨hPaired.opened, hPaired.seen⟩
    | takes _ _ taken _ hTakes =>
        exact hPaired.takes hTakes
  exact @run_invariant (fun g _ => Paired g) hKeeps
    f g data [] out ⟨hPaired.opened, hPaired.seen⟩ hRun

/- Bytes of no length put nothing behind the buffer. -/
theorem more_nil (f : ViewOnlyFilter) : f.more [] = f := by
  unfold more
  rw [List.append_nil]

/- A call that returns leaves nothing more to take. -/
theorem run_rests
    {data : Bytes}
    {out : List Bytes}
    (hRun : run f data = .ok (g, out)) :
    turn g = .ok (g, [], false) := by
  rcases run_settled hRun with ⟨h, last, hTurn⟩
  rcases (turn_extends []).stops h g last hTurn with
    ⟨hLast, hSame⟩
  rw [more_nil, more_nil, hTurn, hLast] at hSame
  exact hSame.symm

/- Past the handshake the filter stays there. -/
theorem run_handshaken
    {data : Bytes}
    {out : List Bytes}
    (hReady : f.handshaken = true)
    (hRun : run f data = .ok (g, out)) :
    g.handshaken = true := by
  have hKeeps :
      ∀ g g' (_done units : List Bytes) again,
        Turns g g' units again →
          g.handshaken = true → g'.handshaken = true := by
    intro g g' _done units again hTurns hReady
    cases hTurns with
    | skips => exact hReady
    | takes _ _ taken _ hTakes =>
        have hState : g.state = .messages := by
          unfold handshaken at hReady
          rw [Bool.and_eq_true, beq_iff_eq] at hReady
          exact hReady.1
        cases hTakes with
        | waits => exact hReady
        | version _ hEarly =>
            rw [hState] at hEarly
            cases hEarly
        | security _ _ _ _ hEarly =>
            rw [hState] at hEarly
            cases hEarly
        | auth hEarly =>
            rw [hState] at hEarly
            cases hEarly
        | init _ _ _ hEarly =>
            rw [hState] at hEarly
            cases hEarly
        | forwarded => exact hReady
        | encodings => exact hReady
        | dropped => exact hReady
  exact @run_invariant (fun g _ => g.handshaken = true) hKeeps
    f g data [] out hReady hRun

/- A call takes its part of the parse off the stream. -/
theorem parse_cut
    (hReady : f.handshaken = true)
    (data rest : Bytes)
    (out : List Bytes) :
    (∃ messages,
      clientMessages
          ((f.buf ++ (data ++ rest)).drop f.skip) =
        some messages ∧
      out = messages.flatMap viewOnly) ↔
      ∃ g before messages,
        run f data = .ok (g, before) ∧
          clientMessages ((g.buf ++ rest).drop g.skip) =
            some messages ∧
          out = before ++ messages.flatMap viewOnly := by
  have hMore :
      f.more (data ++ rest) = (f.more data).more rest := by
    unfold more
    rw [List.append_assoc]
  have hWhole :
      (∃ g, Settles turn (f.more (data ++ rest)) out g) ↔
        ∃ messages,
          clientMessages
              ((f.buf ++ (data ++ rest)).drop f.skip) =
            some messages ∧
          out = messages.flatMap viewOnly :=
    settles_iff_stream hReady
  rw [← hWhole, hMore]
  constructor
  · rintro ⟨t, hSettles⟩
    rcases (turn_extends rest).settles_iff.mp hSettles with
      ⟨g, before, after, hBefore, hAfter, rfl⟩
    have hRun := (run_iff f g data before).mpr hBefore
    have hReady' : (g.more rest).handshaken = true :=
      run_handshaken (g := g) hReady hRun
    rcases (settles_iff_stream hReady').mp ⟨t, hAfter⟩ with
      ⟨messages, hMessages, rfl⟩
    exact ⟨g, before, messages, hRun, hMessages, rfl⟩
  · rintro ⟨g, before, messages, hRun, hMessages, rfl⟩
    have hReady' : (g.more rest).handshaken = true :=
      run_handshaken (g := g) hReady hRun
    rcases (settles_iff_stream hReady').mpr
        ⟨messages, hMessages, rfl⟩ with ⟨t, hAfter⟩
    exact ⟨t, (turn_extends rest).settles_iff.mpr
      ⟨g, before, _, (run_iff f g data before).mp hRun,
        hAfter, rfl⟩⟩

/-
  Bytes held past the handshake wait for the server's word
  as little as those of a filter without any: the server's
  bytes do not wake a filter at rest.
-/
theorem rests_sameClient
    (hRests : turn f = .ok (f, [], false))
    (hState : f.state = .messages)
    (hUnseen : f.serverinitSeen = false)
    (hSame : SameClient f g) :
    turn g = .ok (g, [], false) := by
  by_cases hSkip : f.skip = 0
  · apply turn_empty (hSame.skip.trans hSkip)
    rw [hSame.buf]
    by_contra hBuf
    have hNone : ¬ f.skip ≠ 0 := fun hNot => hNot hSkip
    unfold turn at hRests
    rw [if_neg hNone] at hRests
    cases hHead : f.buf with
    | nil => exact hBuf hHead
    | cons kind rest =>
        unfold next notReady refuse at hRests
        rw [hHead, hState, hUnseen] at hRests
        cases hRests
  · have hSkip' : g.skip ≠ 0 := by
      rw [hSame.skip]
      exact hSkip
    unfold turn at hRests ⊢
    rw [if_pos hSkip] at hRests
    rw [if_pos hSkip', hSame.skip, hSame.buf]
    simp only [Except.ok.injEq, Prod.mk.injEq] at hRests ⊢
    have hBuf := congrArg buf hRests.1
    have hLeft := congrArg skip hRests.1
    dsimp only at hBuf hLeft
    refine ⟨?_, trivial, hRests.2.2⟩
    rw [hBuf, hLeft, ← hSame.buf, ← hSame.skip]

end ViewOnlyFilter

end ConsoleRelay

end TrueNorth

--------
-- Whole Connections
--------

namespace TrueNorth

namespace ConsoleRelay

open BigEndian Incremental ViewOnlyFilter

namespace Console

/- A live filter at rest, past the handshake or before. -/
structure Rested (c : Console) : Prop where
  paired : c.filter.dead = false → Paired c.filter
  rests :
    c.filter.dead = false → c.filter.state = .messages →
      turn c.filter = .ok (c.filter, [], false)

theorem rested_fresh : fresh.Rested := by
  refine ⟨fun _ => ⟨nofun, nofun⟩, fun _ => nofun⟩

theorem rested_step
    (c : Console)
    (arrival : Arrival)
    (hRested : c.Rested) :
    (c.step arrival).Rested := by
  cases arrival with
  | client data =>
      rcases hFeed : c.filter.feed data with ⟨f', answer⟩
      simp only [step, hFeed]
      cases answer with
      | error violation =>
          have hDead := feed_error hFeed
          constructor
          · intro hAlive
            rw [hDead] at hAlive
            cases hAlive
          · intro hAlive
            rw [hDead] at hAlive
            cases hAlive
      | ok out =>
          rcases feed_ok hFeed with ⟨hAlive, hRun⟩
          exact ⟨fun _ => (hRested.paired hAlive).run hRun,
            fun _ _ => run_rests hRun⟩
  | server data =>
      rcases hFeed : c.filter.feedServer data with
        ⟨f', answer⟩
      simp only [step, hFeed]
      cases answer with
      | error violation =>
          have hDead := feedServer_error hFeed
          constructor
          · intro hAlive
            rw [hDead] at hAlive
            cases hAlive
          · intro hAlive
            rw [hDead] at hAlive
            cases hAlive
      | ok =>
          rcases feedServer_ok hFeed with ⟨hAlive, hCase⟩
          have hPaired := hRested.paired hAlive
          rcases hCase with ⟨_, rfl⟩ | ⟨hAdvance, _⟩
          · exact ⟨hRested.paired, hRested.rests⟩
          · have hSame := advanceServer_sameClient hAdvance
            have hHeld : Paired
                { c.filter with
                  sbuf := c.filter.sbuf ++ data } :=
              ⟨hPaired.opened, hPaired.seen⟩
            constructor
            · intro _
              exact hHeld.advanceServer hAdvance
            · intro _ hState
              have hRests := hRested.rests hAlive
                (hSame.state.symm.trans hState)
              by_cases hSeen : c.filter.serverinitSeen = true
              · -- nothing is read of the server any more
                have hDone := (hPaired.seen hSeen).2
                unfold feedServer at hFeed
                rw [if_neg (by simp [hAlive]), if_pos hDone]
                  at hFeed
                cases hFeed
                exact hRests
              · refine rests_sameClient hRests
                  (hSame.state.symm.trans hState)
                  (by simpa using hSeen) ?_
                exact ⟨hSame.buf, hSame.state, hSame.skip,
                  hSame.dead, hSame.dropped, hSame.cver,
                  hSame.choice⟩

/- What the client has sent in a list of arrivals. -/
def clientStream : List Arrival → Bytes
| [] => []
| .client data :: arrivals => data ++ clientStream arrivals
| .server _ :: arrivals => clientStream arrivals

theorem dead_run
    {c : Console}
    (hDead : c.filter.dead = true)
    (arrivals : List Arrival) :
    (Runs.run step c arrivals).filter.dead = true := by
  refine Runs.run_invariant
    (fun c : Console => c.filter.dead = true) ?_ hDead
    arrivals
  intro c arrival hDead
  cases arrival with
  | client data =>
      have hFeed : c.filter.feed data =
          (c.filter, .error ⟨closePolicy,
            "Input is not allowed on a view-only console"⟩)
          := by
        unfold feed
        rw [if_pos hDead]
      simp only [step, hFeed]
      exact hDead
  | server data =>
      have hFeed : c.filter.feedServer data =
          (c.filter, .error ⟨closePolicy,
            "Input is not allowed on a view-only console"⟩)
          := by
        unfold feedServer
        rw [if_pos hDead]
      simp only [step, hFeed]
      exact hDead

/-
  Past the handshake a live console forwards what the parse
  of the client's stream says, and dies where the parse
  refuses.  By induction on the arrivals: the cut after the
  first of them does not matter to the filter's loop.
-/
theorem run_stream
    {c : Console}
    (hRested : c.Rested)
    (hAlive : c.filter.dead = false)
    (hReady : c.filter.handshaken = true)
    (arrivals : List Arrival) :
    match
      clientMessages
        ((c.filter.buf ++ clientStream arrivals).drop
          c.filter.skip)
    with
    | none =>
        (Runs.run step c arrivals).filter.dead = true
    | some messages =>
        (Runs.run step c arrivals).filter.dead = false ∧
          (Runs.run step c arrivals).forwarded =
            c.forwarded ++ messages.flatMap viewOnly := by
  have hStates : c.filter.state = .messages ∧
      c.filter.serverinitSeen = true := by
    unfold handshaken at hReady
    rwa [Bool.and_eq_true, beq_iff_eq] at hReady
  induction arrivals generalizing c with
  | nil =>
      have hTurn := hRested.rests hAlive hStates.1
      rcases (settles_iff_stream hReady).mp
          ⟨_, .stops hTurn⟩ with ⟨messages, hMessages, hOut⟩
      rw [clientStream, List.append_nil, hMessages]
      dsimp only
      rw [← hOut, List.append_nil]
      exact ⟨hAlive, rfl⟩
  | cons arrival arrivals ih =>
      have hNext := rested_step c arrival hRested
      cases arrival with
      | server data =>
          have hDone :=
            ((hRested.paired hAlive).seen hStates.2).2
          have hFeed : c.filter.feedServer data =
              (c.filter, .ok ()) := by
            unfold feedServer
            rw [if_neg (by simp [hAlive]), if_pos hDone]
          have hFilter :
              (c.step (.server data)).filter = c.filter := by
            simp only [step, hFeed]
          have hForwarded :
              (c.step (.server data)).forwarded =
                c.forwarded := by
            simp only [step, hFeed]
          have hRest := ih hNext (by rw [hFilter, hAlive])
            (by rw [hFilter, hReady])
            (by rw [hFilter]; exact hStates)
          rw [hFilter, hForwarded] at hRest
          exact hRest
      | client data =>
          have hCut := parse_cut hReady data
            (clientStream arrivals)
          rw [clientStream]
          rcases hFeed : c.filter.feed data with ⟨f', answer⟩
          cases answer with
          | error violation =>
              have hRun : ∀ g before,
                  run c.filter data ≠ .ok (g, before) := by
                intro g before hRun
                rw [(feed_iff _ _ _ _).mpr ⟨hAlive, hRun⟩]
                  at hFeed
                cases hFeed
              have hDead :
                  (c.step (.client data)).filter.dead =
                    true := by
                simp only [step, hFeed]
                exact feed_error hFeed
              cases hParse : clientMessages
                  ((c.filter.buf ++
                    (data ++ clientStream arrivals)).drop
                    c.filter.skip) with
              | none => exact dead_run hDead arrivals
              | some messages =>
                  rcases (hCut _).mp ⟨messages, hParse, rfl⟩
                    with ⟨g, before, _, hOk, _⟩
                  exact absurd hOk (hRun g before)
          | ok out =>
              have hRun := (feed_ok hFeed).2
              have hReady' := run_handshaken hReady hRun
              have hStep : c.step (.client data) =
                  { c with
                    filter := f'
                    forwarded := c.forwarded ++ out } := by
                simp only [step, hFeed]
              have hStates' : f'.state = .messages ∧
                  f'.serverinitSeen = true := by
                unfold handshaken at hReady'
                rwa [Bool.and_eq_true, beq_iff_eq] at hReady'
              rw [hStep] at hNext
              have hRest := ih hNext
                ((run_dead hRun).trans hAlive) hReady' hStates'
              rw [Runs.run_cons, hStep]
              dsimp only at hRest
              cases hAfter : clientMessages
                  ((f'.buf ++ clientStream arrivals).drop
                    f'.skip) with
              | none =>
                  rw [hAfter] at hRest
                  cases hParse : clientMessages
                      ((c.filter.buf ++
                        (data ++ clientStream arrivals)).drop
                        c.filter.skip) with
                  | none => exact hRest
                  | some messages =>
                      rcases (hCut _).mp
                          ⟨messages, hParse, rfl⟩ with
                        ⟨g, before, rest, hOk, hSome, _⟩
                      rw [hRun] at hOk
                      cases hOk
                      rw [hAfter] at hSome
                      cases hSome
              | some rest =>
                  rw [hAfter] at hRest
                  rcases (hCut _).mpr
                      ⟨f', out, rest, hRun, hAfter, rfl⟩ with
                    ⟨messages, hParse, hOut⟩
                  rw [hParse]
                  dsimp only at hRest ⊢
                  rw [← hOut, ← List.append_assoc]
                  exact hRest

/-
  The cuts a client's and a server's bytes arrive in do not
  matter, to any filter a connection can reach: one call
  does what two do, in what it forwards, counts and keeps.
  Past the handshake what is forwarded is therefore the
  parse of the client's stream, each message as a view-only
  console passes it on.
-/
theorem chunks_immaterial (arrivals : List Arrival) :
    let c := Runs.run step fresh arrivals
    (∀ a b g out,
      c.filter.feed (a ++ b) = (g, .ok out) ↔
        ∃ f' before after,
          c.filter.feed a = (f', .ok before) ∧
            f'.feed b = (g, .ok after) ∧
            out = before ++ after) ∧
      (∀ a b g,
        c.filter.feedServer (a ++ b) = (g, .ok ()) ↔
          ∃ f', c.filter.feedServer a = (f', .ok ()) ∧
            f'.feedServer b = (g, .ok ())) ∧
      ∀ later,
        c.filter.dead = false →
        c.filter.handshaken = true →
        match
          clientMessages
            ((c.filter.buf ++ clientStream later).drop
              c.filter.skip)
        with
        | none => (Runs.run step c later).filter.dead = true
        | some messages =>
            (Runs.run step c later).filter.dead = false ∧
              (Runs.run step c later).forwarded =
                c.forwarded ++ messages.flatMap viewOnly := by
  intro c
  have hRested : c.Rested :=
    Runs.run_invariant Rested rested_step rested_fresh
      arrivals
  refine ⟨?_, ?_, ?_⟩
  · intro a b g out
    exact feed_append c.filter g a b out
  · intro a b g
    exact feedServer_append c.filter g a b
  · intro later hAlive hReady
    exact run_stream hRested hAlive hReady later

end Console

end ConsoleRelay

end TrueNorth
