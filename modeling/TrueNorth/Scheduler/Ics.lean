import TrueNorth.Lib.Calendar
import TrueNorth.Lib.TextLines
import TrueNorth.Lib.Texts

/-
  Bookings as an iCalendar document (scheduler/ics.py):
  escaped texts, content lines folded at 75 octets, and the
  whole calendar.

  Key definitions include:
    * `escapeText`
    * `foldOctets`, `fold`
    * `IcsEvent`
    * `calendar`
    * `contentLines`

  Main theorems:
    * `fold_line`
    * `unescape_escapeText`
    * `calendar_contentLines`
    * `calendar_texts`
-/

--------
-- Texts and Lines
--------

namespace TrueNorth

namespace Scheduler

namespace Ics

open TextLines

/- TEXT escaping. -/
def escapeText (value : List Char) : List Char :=
  let v := replace ['\\'] ['\\', '\\'] value
  let v := replace [';'] ['\\', ';'] v
  let v := replace [','] ['\\', ','] v
  let v := replace crlf ['\\', 'n'] v
  let v := replace ['\n'] ['\\', 'n'] v
  replace ['\r'] ['\\', 'n'] v

/- `ch.encode("utf-8")`. -/
def encode (ch : Char) : List UInt8 :=
  Texts.utf8 [ch]

/-
  The loop of `fold`: the physical lines as octets, `current`
  the one at hand.
-/
def foldLoop :
    List Char → List UInt8 → List (List UInt8)
| [], current => [current]
| ch :: line, current =>
    if current.length + (encode ch).length > 75 then
      -- the space a continuation line starts with counts
      current :: foldLoop line (encode ' ' ++ encode ch)
    else
      foldLoop line (current ++ encode ch)

def foldOctets (line : List Char) : List (List UInt8) :=
  foldLoop line []

/- `none`: a physical line that is not UTF-8 by itself. -/
def fold (line : List Char) : Option (List Char) :=
  ((foldOctets line).mapM Texts.utf8?).map join

--------
-- The Calendar
--------

open TextLines

/-
  A `datetime` that has a time in UTC; one without a zone is
  taken to be in UTC.
-/
structure Time where
  wall : Int
  offset : Option Int
  hUtc :
    Calendar.first ≤
        wall - offset.getD 0 * Datetime.microsPerMinute ∧
      wall - offset.getD 0 * Datetime.microsPerMinute ≤
        Calendar.last
deriving DecidableEq

structure IcsEvent where
  uid : String
  sequence : Int
  start : Time
  «end» : Time
  summary : String
  description : String
  status : String
  lastModified : Option Time
  organizer : String
  attendees : List String
deriving DecidableEq

/- `PRODID`. -/
def prodid : String :=
  "-//TrueNorth Range//Scheduler//EN"

/- `20261015T130000Z`. -/
def utc (dt : Time) : List Char :=
  let seconds :=
    (dt.wall - dt.offset.getD 0 * Datetime.microsPerMinute) /
      1000000
  let (year, month, day) := Calendar.civil (seconds / 86400)
  let clock := seconds % 86400
  Calendar.padded 4 year ++ Calendar.padded 2 month ++
    Calendar.padded 2 day ++ 'T' ::
    Calendar.padded 2 (clock / 3600) ++
    Calendar.padded 2 (clock / 60 % 60) ++
    Calendar.padded 2 (clock % 60) ++ ['Z']

/- The lines before the calendar's name. -/
def headerLines (method : String) : List (List Char) :=
  ["BEGIN:VCALENDAR".toList,
    "VERSION:2.0".toList,
    "PRODID:".toList ++ prodid.toList,
    "CALSCALE:GREGORIAN".toList,
    "METHOD:".toList ++ method.toList]

def nameLine (name : String) : List Char :=
  "X-WR-CALNAME:".toList ++ escapeText name.toList

/- The lines of an event before its texts. -/
def openingLines
    (stamp : List Char)
    (e : IcsEvent) : List (List Char) :=
  ["BEGIN:VEVENT".toList,
    "UID:".toList ++ e.uid.toList,
    "DTSTAMP:".toList ++ stamp,
    "DTSTART:".toList ++ utc e.start,
    "DTEND:".toList ++ utc e.end,
    "SEQUENCE:".toList ++ (toString e.sequence).toList,
    "STATUS:".toList ++ e.status.toList]

def summaryLine (e : IcsEvent) : List Char :=
  "SUMMARY:".toList ++ escapeText e.summary.toList

def descriptionLines (e : IcsEvent) : List (List Char) :=
  if e.description = "" then []
  else
    ["DESCRIPTION:".toList ++ escapeText e.description.toList]

/- The lines of an event after its texts. -/
def closingLines (e : IcsEvent) : List (List Char) :=
  e.lastModified.toList.map
      (fun t => "LAST-MODIFIED:".toList ++ utc t) ++
    (if e.organizer = "" then []
      else
        ["ORGANIZER;CN=TrueNorth Range:mailto:".toList ++
          e.organizer.toList]) ++
    e.attendees.map (fun who =>
      "ATTENDEE;ROLE=REQ-PARTICIPANT;".toList ++
        "PARTSTAT=NEEDS-ACTION;RSVP=TRUE:mailto:".toList ++
        who.toList) ++
    ["END:VEVENT".toList]

def eventLines
    (stamp : List Char)
    (e : IcsEvent) : List (List Char) :=
  openingLines stamp e ++ [summaryLine e] ++
    descriptionLines e ++ closingLines e

/- `lines`. -/
def lines
    (events : List IcsEvent)
    (method name : String)
    (stamp : List Char) : List (List Char) :=
  headerLines method ++ [nameLine name] ++
    events.flatMap (eventLines stamp) ++
    ["END:VCALENDAR".toList]

/- A whole document. -/
def calendar
    (events : List IcsEvent)
    (method name : String)
    (now : Time) : Option (List Char) :=
  ((lines events method name (utc now)).mapM fold).map
    (fun folded => join folded ++ crlf)

--------
-- Reading It Back
--------

open TextLines

/- The content lines of a document, unfolded. -/
def contentLines (doc : List Char) : List (List Char) :=
  (split (unfold doc)).dropLast

/- A TEXT value without its escapes. -/
def unescape : List Char → List Char
| '\\' :: 'n' :: rest => '\n' :: unescape rest
| '\\' :: 'N' :: rest => '\n' :: unescape rest
| '\\' :: c :: rest => c :: unescape rest
| c :: rest => c :: unescape rest
| [] => []

/- Every line break is one LF. -/
def withLf (text : List Char) : List Char :=
  replace ['\r'] ['\n'] (replace crlf ['\n'] text)

/- How many octets a text takes. -/
def octets (text : List Char) : Nat :=
  (Texts.utf8 text).length

--------
-- Escaped Texts
--------

open TextLines

/- What stands for a character of a text with LF breaks. -/
def escapeChar (c : Char) : List Char :=
  if c = '\\' then ['\\', '\\']
  else if c = ';' then ['\\', ';']
  else if c = ',' then ['\\', ',']
  else if c = '\n' then ['\\', 'n']
  else [c]

/- The same for one that may be either half of a break. -/
def escapeInner (c : Char) : List Char :=
  if c = '\\' then ['\\', '\\']
  else if c = ';' then ['\\', ';']
  else if c = ',' then ['\\', ',']
  else [c]

theorem escapeInner_eq
    (value : List Char) :
    replace [','] ['\\', ','] (replace [';'] ['\\', ';']
        (replace ['\\'] ['\\', '\\'] value)) =
      value.flatMap escapeInner := by
  simp only [replace_char, List.flatMap_assoc]
  congr 1
  funext c
  unfold escapeInner
  by_cases hSlash : c = '\\'
  · subst hSlash
    rfl
  by_cases hSemi : c = ';'
  · subst hSemi
    rfl
  by_cases hComma : c = ','
  · subst hComma
    rfl
  · simp [hSlash, hSemi, hComma]

/- Escaping makes no break, and hides none. -/
theorem joinBreaks_escapeInner
    (new : List Char)
    {c : Char}
    {rest : List Char}
    (hOther : ∀ r, c = '\r' → rest = '\n' :: r → False) :
    joinBreaks new
        (escapeInner c ++ rest.flatMap escapeInner) =
      escapeInner c ++
        joinBreaks new (rest.flatMap escapeInner) := by
  have hPair :
      ∀ d more, d ≠ '\r' →
        joinBreaks new (['\\', d] ++ more) =
          ['\\', d] ++ joinBreaks new more := by
    intro d more hNot
    rw [List.cons_append, List.cons_append, List.nil_append,
      joinBreaks_cons, joinBreaks_cons]
    · rfl
    · intro hFirst
      exact absurd hFirst hNot
    · intro hFirst
      exact absurd hFirst (by decide)
  unfold escapeInner
  split
  · exact hPair _ _ (by decide)
  split
  · exact hPair _ _ (by decide)
  split
  · exact hPair _ _ (by decide)
  · rw [List.cons_append, List.nil_append, joinBreaks_cons]
    · rfl
    · intro hFirst r hMore
      cases rest with
      | nil => cases hMore
      | cons d rest =>
          -- the next character is escaped or is the LF itself
          refine hOther rest hFirst ?_
          rw [List.flatMap_cons] at hMore
          split at hMore
          · cases hMore
          split at hMore
          · cases hMore
          split at hMore
          · cases hMore
          · rw [List.cons_append, List.cons.injEq] at hMore
            rw [hMore.1]

/- Escaping is one character at a time, after the breaks. -/
theorem escapeText_eq
    (value : List Char) :
    escapeText value = (withLf value).flatMap escapeChar := by
  unfold escapeText withLf
  dsimp only
  unfold crlf
  rw [escapeInner_eq, replace_break, replace_break]
  simp only [replace_char]
  fun_induction joinBreaks ['\n'] value with
  | case1 rest ih =>
      have hBreak :
          ('\r' :: '\n' :: rest).flatMap escapeInner =
            '\r' :: '\n' :: rest.flatMap escapeInner := rfl
      rw [hBreak, joinBreaks, List.flatMap_append,
        List.flatMap_append, ih, List.flatMap_append,
        List.flatMap_append]
      rfl
  | case2 c rest hOther ih =>
      rw [List.flatMap_cons, joinBreaks_escapeInner _ hOther,
        List.flatMap_append, List.flatMap_append, ih,
        List.flatMap_cons, List.flatMap_append]
      congr 1
      unfold escapeInner escapeChar
      by_cases hSlash : c = '\\'
      · subst hSlash
        rfl
      by_cases hSemi : c = ';'
      · subst hSemi
        rfl
      by_cases hComma : c = ','
      · subst hComma
        rfl
      by_cases hLf : c = '\n'
      · subst hLf
        rfl
      by_cases hCr : c = '\r'
      · subst hCr
        rfl
      · simp [hSlash, hSemi, hComma, hLf, hCr]
  | case3 => rfl

theorem unescape_cons
    {c : Char}
    (hPlain : c ≠ '\\')
    (rest : List Char) :
    unescape (c :: rest) = c :: unescape rest := by
  rw [unescape]
  · intro r hFirst
    exact absurd hFirst hPlain
  · intro r hFirst
    exact absurd hFirst hPlain
  · intro d r hFirst
    exact absurd hFirst hPlain

theorem unescape_pair
    {c : Char}
    (hLower : c ≠ 'n')
    (hUpper : c ≠ 'N')
    (rest : List Char) :
    unescape ('\\' :: c :: rest) = c :: unescape rest := by
  rw [unescape]
  · exact fun hFirst => absurd hFirst hLower
  · exact fun hFirst => absurd hFirst hUpper

/- An escaped text is the text, its breaks made LF. -/
theorem unescape_escapeText
    (value : List Char) :
    unescape (escapeText value) = withLf value := by
  rw [escapeText_eq]
  induction withLf value with
  | nil => rfl
  | cons c rest ih =>
      rw [List.flatMap_cons, escapeChar]
      split
      · next hSlash =>
          rw [hSlash, List.cons_append, List.cons_append,
            unescape_pair (by decide) (by decide),
            List.nil_append, ih]
      split
      · next hSemi =>
          rw [hSemi, List.cons_append, List.cons_append,
            unescape_pair (by decide) (by decide),
            List.nil_append, ih]
      split
      · next hComma =>
          rw [hComma, List.cons_append, List.cons_append,
            unescape_pair (by decide) (by decide),
            List.nil_append, ih]
      split
      · next hLf =>
          rw [hLf, List.cons_append, List.cons_append,
            unescape, List.nil_append, ih]
      · next hSlash _ _ _ =>
          rw [List.cons_append, List.nil_append,
            unescape_cons hSlash, ih]

/- An escape is made of plain characters and no LF. -/
theorem mem_escapeChar
    {c d : Char}
    (hMem : d ∈ escapeChar c) :
    d ∈ ['\\', ';', ',', 'n'] ∨ (d = c ∧ c ≠ '\n') := by
  have hPair :
      ∀ e, e ∈ ['\\', ';', ',', 'n'] → d ∈ ['\\', e] →
        d ∈ ['\\', ';', ',', 'n'] := by
    intro e hPlain hIn
    rcases List.mem_cons.mp hIn with rfl | hLast
    · exact List.mem_cons_self
    · rwa [List.mem_singleton.mp hLast]
  unfold escapeChar at hMem
  split at hMem
  · exact .inl (hPair _ (by decide) hMem)
  split at hMem
  · exact .inl (hPair _ (by decide) hMem)
  split at hMem
  · exact .inl (hPair _ (by decide) hMem)
  split at hMem
  · exact .inl (hPair _ (by decide) hMem)
  · next hLf => exact .inr ⟨List.mem_singleton.mp hMem, hLf⟩

/- Nothing of a break is left of an escaped text. -/
theorem escapeText_plain
    (value : List Char) :
    '\r' ∉ escapeText value ∧ '\n' ∉ escapeText value := by
  have hCr : '\r' ∉ withLf value := by
    unfold withLf
    rw [replace_char, List.mem_flatMap]
    rintro ⟨c, _, hMem⟩
    split at hMem
    · exact absurd hMem (by decide)
    · next hNot =>
        exact hNot (List.mem_singleton.mp hMem).symm
  rw [escapeText_eq]
  constructor
  · rw [List.mem_flatMap]
    rintro ⟨c, hIn, hMem⟩
    rcases mem_escapeChar hMem with hPlain | ⟨hSame, _⟩
    · exact absurd hPlain (by decide)
    · exact hCr (hSame ▸ hIn)
  · rw [List.mem_flatMap]
    rintro ⟨c, hIn, hMem⟩
    rcases mem_escapeChar hMem with hPlain | ⟨hSame, hNot⟩
    · exact absurd hPlain (by decide)
    · exact hNot hSame.symm

--------
-- Folding
--------

open TextLines

@[simp] theorem octets_nil : octets [] = 0 := rfl

@[simp] theorem octets_append
    (text text' : List Char) :
    octets (text ++ text') = octets text + octets text' := by
  unfold octets Texts.utf8
  rw [List.flatMap_append, List.length_append]

theorem octets_cons
    (c : Char)
    (text : List Char) :
    octets (c :: text) = octets [c] + octets text :=
  octets_append [c] text

theorem octets_char_le
    (c : Char) :
    octets [c] ≤ 4 := by
  unfold octets Texts.utf8
  rw [List.flatMap_cons, List.flatMap_nil, List.append_nil,
    String.length_utf8EncodeChar]
  exact c.utf8Size_le_four

/- The loop of `fold`, on texts in place of their octets. -/
def foldText :
    List Char → List Char → List (List Char)
| [], current => [current]
| ch :: line, current =>
    if octets current + octets [ch] > 75 then
      current :: foldText line [' ', ch]
    else
      foldText line (current ++ [ch])

/- No fold splits a character. -/
theorem foldLoop_eq
    (line current : List Char) :
    foldLoop line (Texts.utf8 current) =
      (foldText line current).map Texts.utf8 := by
  have hAppend : ∀ text ch,
      Texts.utf8 text ++ encode ch =
        Texts.utf8 (text ++ [ch]) := by
    intro text ch
    unfold encode Texts.utf8
    rw [List.flatMap_append]
  induction line generalizing current with
  | nil => rfl
  | cons ch line ih =>
      rw [foldLoop, foldText]
      by_cases hLong :
          (Texts.utf8 current).length + (encode ch).length > 75
      · have hLong' : octets current + octets [ch] > 75 := hLong
        rw [if_pos hLong, if_pos hLong', List.map_cons, ← ih]
        rfl
      · have hShort :
            ¬ octets current + octets [ch] > 75 := hLong
        rw [if_neg hLong, if_neg hShort, hAppend, ih]

theorem foldOctets_eq
    (line : List Char) :
    foldOctets line = (foldText line []).map Texts.utf8 :=
  foldLoop_eq line []

theorem mapM_utf8
    (texts : List (List Char)) :
    (texts.map Texts.utf8).mapM Texts.utf8? = some texts := by
  induction texts with
  | nil => rfl
  | cons text texts ih =>
      rw [List.map_cons, List.mapM_cons, Texts.utf8?_utf8, ih]
      rfl

/- The text of a folded line. -/
def folded (line : List Char) : List Char :=
  join (foldText line [])

theorem fold_eq
    (line : List Char) :
    fold line = some (folded line) := by
  unfold fold
  rw [foldOctets_eq, mapM_utf8]
  rfl

/- The physical lines are the line cut in pieces. -/
theorem foldText_cut
    (line current : List Char) :
    ∃ (first : List Char) (rest : List (List Char)),
      foldText line current =
          (current ++ first) :: rest.map (' ' :: ·) ∧
        first ++ rest.flatten = line := by
  induction line generalizing current with
  | nil => exact ⟨[], [], by simp [foldText], rfl⟩
  | cons ch line ih =>
      rw [foldText]
      split
      · rcases ih [' ', ch] with ⟨first, rest, hCut, hWhole⟩
        refine ⟨[], (ch :: first) :: rest, ?_, ?_⟩
        · rw [hCut, List.append_nil]
          rfl
        · rw [← hWhole]
          rfl
      · rcases ih (current ++ [ch]) with
          ⟨first, rest, hCut, hWhole⟩
        refine ⟨ch :: first, rest, ?_, ?_⟩
        · rw [hCut, List.append_assoc]
          rfl
        · rw [← hWhole]
          rfl

theorem foldText_octets
    {line current : List Char}
    (hCurrent : octets current ≤ 75) :
    ∀ physical ∈ foldText line current,
      octets physical ≤ 75 := by
  induction line generalizing current with
  | nil =>
      intro physical hMem
      rw [foldText, List.mem_singleton] at hMem
      rw [hMem]
      exact hCurrent
  | cons ch line ih =>
      have hChar := octets_char_le ch
      rw [foldText]
      split
      · intro physical hMem
        rcases List.mem_cons.mp hMem with rfl | hRest
        · exact hCurrent
        · refine ih ?_ physical hRest
          have hSpace : octets [' '] = 1 := rfl
          rw [octets_cons, hSpace]
          omega
      · next hShort =>
          refine ih ?_
          rw [octets_append]
          omega

/- Cutting a text into lines makes none longer. -/
theorem octets_split
    (text : List Char) :
    ∀ line ∈ split text, octets line ≤ octets text := by
  fun_induction split text with
  | case1 rest ih =>
      intro line hMem
      rcases List.mem_cons.mp hMem with rfl | hRest
      · exact Nat.zero_le _
      · have hLe := ih line hRest
        rw [octets_cons, octets_cons '\n']
        omega
  | case2 c rest hOther hNone ih =>
      exact absurd hNone (split_ne_nil rest)
  | case3 c rest hOther line lines hLines ih =>
      rw [hLines] at ih
      intro line' hMem
      rw [octets_cons]
      rcases List.mem_cons.mp hMem with rfl | hRest
      · have hLe := ih line List.mem_cons_self
        rw [octets_cons]
        omega
      · have hLe := ih line' (List.mem_cons_of_mem _ hRest)
        omega
  | case4 =>
      intro line hMem
      rw [List.mem_singleton] at hMem
      rw [hMem]

theorem split_join
    {texts : List (List Char)}
    (hSome : texts ≠ []) :
    split (join texts) = texts.flatMap split := by
  induction texts with
  | nil => exact absurd rfl hSome
  | cons text texts ih =>
      cases texts with
      | nil => simp [join]
      | cons text' texts =>
          rw [join, split_break, ih (List.cons_ne_nil _ _)]
          rfl

theorem join_cons
    (c : Char)
    (text : List Char)
    (texts : List (List Char)) :
    join ((c :: text) :: texts) = c :: join (text :: texts) := by
  cases texts <;> rfl

/- Unfolding puts the pieces together again. -/
theorem unfold_join
    {first : List Char}
    {rest : List (List Char)}
    (hPlain : hasBreak (first ++ rest.flatten) = false) :
    unfold (join (first :: rest.map (' ' :: ·))) =
      first ++ rest.flatten := by
  induction rest generalizing first with
  | nil =>
      rw [List.flatten_nil, List.append_nil] at hPlain ⊢
      exact unfold_plain hPlain
  | cons next rest ih =>
      have hParts := hasBreak_append hPlain
      rw [List.flatten_cons] at hParts ⊢
      rw [List.map_cons, join, join_cons,
        unfold_joins hParts.1, ih hParts.2]

theorem unfold_folded
    {line : List Char}
    (hPlain : hasBreak line = false) :
    unfold (folded line) = line := by
  rcases foldText_cut line [] with
    ⟨first, rest, hCut, hWhole⟩
  unfold folded
  rw [hCut, List.nil_append]
  rw [← hWhole] at hPlain ⊢
  exact unfold_join hPlain

theorem physical_octets
    {line physical : List Char}
    (hMem : physical ∈ split (folded line)) :
    octets physical ≤ 75 := by
  rcases foldText_cut line [] with ⟨first, rest, hCut, _⟩
  have hSome : foldText line [] ≠ [] := by
    rw [hCut]
    exact List.cons_ne_nil _ _
  unfold folded at hMem
  rw [split_join hSome, List.mem_flatMap] at hMem
  rcases hMem with ⟨piece, hPiece, hIn⟩
  exact (octets_split piece physical hIn).trans
    (foldText_octets (Nat.zero_le _) piece hPiece)

--------
-- Documents
--------

open TextLines

/- What a reader makes of one line that was written. -/
def contents (line : List Char) : List (List Char) :=
  split (unfold (folded line))

/- A line without a break is read as it was written. -/
theorem contents_plain
    {line : List Char}
    (hPlain : hasBreak line = false) :
    contents line = [line] := by
  unfold contents
  rw [unfold_folded hPlain, split_plain hPlain]

/- A line that does not go on with the one before it. -/
def Begins (line : List Char) : Prop :=
  ∃ c, line.head? = some c ∧ blank c = false

theorem Begins.append
    {line : List Char}
    (hBegins : Begins line)
    (more : List Char) :
    Begins (line ++ more) := by
  rcases hBegins with ⟨c, hFirst, hBlank⟩
  refine ⟨c, ?_, hBlank⟩
  rw [List.head?_append, hFirst]
  rfl

theorem folded_head
    {line : List Char}
    (hBegins : Begins line) :
    Begins (folded line) := by
  rcases hBegins with ⟨c, hFirst, hBlank⟩
  cases line with
  | nil => cases hFirst
  | cons d line =>
      cases hFirst
      have hChar := octets_char_le c
      have hStart :
          foldText (c :: line) [] = foldText line [c] := by
        rw [foldText, if_neg]
        · rfl
        · rw [octets_nil]
          omega
      rcases foldText_cut line [c] with ⟨first, rest, hCut, _⟩
      refine ⟨c, ?_, hBlank⟩
      unfold folded
      rw [hStart, hCut, List.cons_append, join_cons]
      rfl

theorem mapM_fold
    (lines : List (List Char)) :
    lines.mapM fold = some (lines.map folded) := by
  induction lines with
  | nil => rfl
  | cons line lines ih =>
      rw [List.mapM_cons, fold_eq, ih]
      rfl

/- Every line is read by itself, whatever stands in it. -/
theorem contentLines_join
    {lines : List (List Char)}
    (hSome : lines ≠ [])
    (hBegins : ∀ line ∈ lines, Begins line) :
    contentLines (join (lines.map folded) ++ crlf) =
      lines.flatMap contents := by
  have hRead :
      split (unfold (join (lines.map folded) ++ crlf)) =
        lines.flatMap contents ++ [[]] := by
    induction lines with
    | nil => exact absurd rfl hSome
    | cons line lines ih =>
        cases lines with
        | nil =>
            have hLast :
                unfold (folded line ++ crlf ++ []) =
                  unfold (folded line) ++ crlf ++ unfold [] :=
              unfold_break (folded line) (fun c hc => by cases hc)
            rw [List.append_nil] at hLast
            rw [List.map_cons, List.map_nil, join, hLast,
              split_break]
            simp [contents, unfold, split]
        | cons line' lines =>
            have hRest : ∀ l ∈ line' :: lines, Begins l :=
              fun l hMem =>
                hBegins l (List.mem_cons_of_mem _ hMem)
            rcases folded_head (hRest line' List.mem_cons_self)
              with ⟨c, hFirst, hBlank⟩
            have hHead :
                (join ((line' :: lines).map folded) ++
                  crlf).head? = some c := by
              cases hFolded : folded line' with
              | nil =>
                  rw [hFolded] at hFirst
                  cases hFirst
              | cons d text =>
                  rw [hFolded] at hFirst
                  rw [List.map_cons, hFolded, join_cons]
                  exact hFirst
            rw [List.map_cons, List.map_cons, join,
              List.append_assoc, ← List.map_cons,
              unfold_break, split_break,
              ih (List.cons_ne_nil _ _) hRest,
              ← List.append_assoc]
            · rfl
            · intro d hd
              rw [hHead] at hd
              cases hd
              exact hBlank
  unfold contentLines
  rw [hRead, List.dropLast_concat]

/- The lines of a calendar begin with a property's name. -/
theorem lines_begin
    (events : List IcsEvent)
    (method name : String)
    (stamp : List Char) :
    ∀ line ∈ lines events method name stamp, Begins line := by
  have hName : ∀ text : String, text.toList.head?.any
      (fun c => !blank c) = true → Begins text.toList := by
    intro text hFirst
    cases hHead : text.toList.head? with
    | none =>
        rw [hHead] at hFirst
        cases hFirst
    | some c =>
        rw [hHead, Option.any_some, Bool.not_eq_true'] at hFirst
        exact ⟨c, hHead, hFirst⟩
  have hEvent :
      ∀ e, ∀ line ∈ eventLines stamp e, Begins line := by
    intro e line hMem
    unfold eventLines openingLines summaryLine
      descriptionLines closingLines at hMem
    simp only [List.mem_append, List.mem_cons, List.mem_map,
      List.not_mem_nil, or_false] at hMem
    rcases hMem with
      (((rfl | rfl | rfl | rfl | rfl | rfl | rfl) | rfl) |
        hDescription) |
        (((⟨t, _, rfl⟩ | hOrganizer) | ⟨who, _, rfl⟩) | rfl)
    · exact hName _ (by decide)
    · exact (hName _ (by decide)).append _
    · exact (hName _ (by decide)).append _
    · exact (hName _ (by decide)).append _
    · exact (hName _ (by decide)).append _
    · exact (hName _ (by decide)).append _
    · exact (hName _ (by decide)).append _
    · exact (hName _ (by decide)).append _
    · split at hDescription
      · cases hDescription
      · rw [List.mem_singleton.mp hDescription]
        exact (hName _ (by decide)).append _
    · exact (hName _ (by decide)).append _
    · split at hOrganizer
      · cases hOrganizer
      · rw [List.mem_singleton.mp hOrganizer]
        exact (hName _ (by decide)).append _
    · exact ((hName _ (by decide)).append _).append _
    · exact hName _ (by decide)
  intro line hMem
  unfold lines headerLines nameLine at hMem
  simp only [List.mem_append, List.mem_cons, List.mem_flatMap,
    List.not_mem_nil, or_false] at hMem
  rcases hMem with
    (((rfl | rfl | rfl | rfl | rfl) | rfl) | ⟨e, _, hIn⟩) | rfl
  · exact hName _ (by decide)
  · exact hName _ (by decide)
  · exact (hName _ (by decide)).append _
  · exact hName _ (by decide)
  · exact (hName _ (by decide)).append _
  · exact (hName _ (by decide)).append _
  · exact hEvent e line hIn
  · exact hName _ (by decide)

/- A line that ends in an escaped text has no break. -/
theorem property_plain
    (property : String)
    (value : List Char)
    (hProperty : '\r' ∉ property.toList) :
    hasBreak (property.toList ++ escapeText value) = false := by
  refine hasBreak_of_no_cr ?_
  rw [List.mem_append]
  rintro (hName | hValue)
  · exact hProperty hName
  · exact (escapeText_plain value).1 hValue

/-
  A calendar is always written, and its texts are one content
  line each: the other lines are read as they would be with
  any other texts.
-/
theorem calendar_contentLines
    (events : List IcsEvent)
    (method name : String)
    (now : Time) :
    ∃ doc,
      calendar events method name now = some doc ∧
      contentLines doc =
        (headerLines method).flatMap contents ++
          [nameLine name] ++
          events.flatMap (fun e =>
            (openingLines (utc now) e).flatMap contents ++
              [summaryLine e] ++ descriptionLines e ++
              (closingLines e).flatMap contents) ++
          ["END:VCALENDAR".toList] := by
  refine ⟨join ((lines events method name (utc now)).map
    folded) ++ crlf, ?_, ?_⟩
  · unfold calendar
    rw [mapM_fold]
    rfl
  · have hSome : lines events method name (utc now) ≠ [] := by
      unfold lines
      simp
    rw [contentLines_join hSome (lines_begin _ _ _ _)]
    unfold lines
    rw [List.flatMap_append, List.flatMap_append,
      List.flatMap_append, List.flatMap_assoc]
    have hCalendarName : contents (nameLine name) =
        [nameLine name] :=
      contents_plain (property_plain _ _ (by decide))
    have hEnd : contents "END:VCALENDAR".toList =
        ["END:VCALENDAR".toList] :=
      contents_plain (by decide)
    have hEvent : ∀ e,
        (eventLines (utc now) e).flatMap contents =
          (openingLines (utc now) e).flatMap contents ++
            [summaryLine e] ++ descriptionLines e ++
            (closingLines e).flatMap contents := by
      intro e
      have hSummary : contents (summaryLine e) =
          [summaryLine e] :=
        contents_plain (property_plain _ _ (by decide))
      have hDescription :
          (descriptionLines e).flatMap contents =
            descriptionLines e := by
        unfold descriptionLines
        split
        · rfl
        · rw [List.flatMap_cons, List.flatMap_nil,
            List.append_nil]
          exact contents_plain
            (property_plain _ _ (by decide))
      unfold eventLines
      rw [List.flatMap_append, List.flatMap_append,
        List.flatMap_append, hDescription, List.flatMap_cons,
        List.flatMap_nil, List.append_nil, hSummary]
    simp only [hEvent, List.flatMap_cons, List.flatMap_nil,
      List.append_nil, hCalendarName, hEnd]

/-
  Folding loses nothing, whatever the line; and no calendar
  name, summary or description can do more than be the value
  of its own property, from which it is read back.
-/
theorem calendar_texts :
    (∀ line, ∃ text,
      fold line = some text ∧
        (hasBreak line = false → unfold text = line) ∧
        (∀ physical ∈ split text, octets physical ≤ 75) ∧
        ∀ physical ∈ foldOctets line,
          physical.length ≤ 75 ∧
            ∃ piece, Texts.utf8? physical = some piece) ∧
    (∀ events method name now, ∃ doc,
      calendar events method name now = some doc ∧
        contentLines doc =
          (headerLines method).flatMap contents ++
            [nameLine name] ++
            events.flatMap (fun e =>
              (openingLines (utc now) e).flatMap contents ++
                [summaryLine e] ++ descriptionLines e ++
                (closingLines e).flatMap contents) ++
            ["END:VCALENDAR".toList]) ∧
    (∀ line, hasBreak line = false → contents line = [line]) ∧
    ∀ value,
      unescape (escapeText value) = withLf value ∧
        '\r' ∉ escapeText value ∧ '\n' ∉ escapeText value := by
  refine ⟨?_, calendar_contentLines,
    fun _ => contents_plain, ?_⟩
  · intro line
    refine ⟨folded line, fold_eq line, unfold_folded,
      fun _ => physical_octets, ?_⟩
    intro physical hMem
    rw [foldOctets_eq, List.mem_map] at hMem
    rcases hMem with ⟨piece, hPiece, rfl⟩
    exact ⟨foldText_octets (Nat.zero_le _) piece hPiece,
      piece, Texts.utf8?_utf8 piece⟩
  · intro value
    exact ⟨unescape_escapeText value, escapeText_plain value⟩

end Ics

end Scheduler

end TrueNorth
