import Mathlib.Data.List.Basic

/-
  The names and the build stamps of host-local template
  copies (worker/provisioners/template_copies.py).

  The two patterns are `^([^@]+)@([A-Za-z0-9_-]+)-(\d{8})$`,
  of a name, and, of a line of an annotation,
  `^tn-build:[ \t]*(\S+)[ \t]+(\S+)[ \t]+sha256:([0-9a-f]{64})[ \t]*$`.

  Key definitions include:
    * `parse`
    * `stampOf`

  Main theorems:
    * `stampProblem_annotated`
-/

--------
-- Characters
--------

namespace TrueNorth

namespace TemplateCopies

/- The zeros of the scripts that have decimal digits. -/
def zeros : List Nat :=
  [0x30, 0x660, 0x6F0, 0x7C0, 0x966, 0x9E6, 0xA66, 0xAE6, 0xB66,
    0xBE6, 0xC66, 0xCE6, 0xD66, 0xDE6, 0xE50, 0xED0, 0xF20,
    0x1040, 0x1090, 0x17E0, 0x1810, 0x1946, 0x19D0, 0x1A80,
    0x1A90, 0x1B50, 0x1BB0, 0x1C40, 0x1C50, 0xA620, 0xA8D0,
    0xA900, 0xA9D0, 0xA9F0, 0xAA50, 0xABF0, 0xFF10, 0x104A0,
    0x10D30, 0x11066, 0x110F0, 0x11136, 0x111D0, 0x112F0,
    0x11450, 0x114D0, 0x11650, 0x116C0, 0x11730, 0x118E0,
    0x11950, 0x11C50, 0x11D50, 0x11DA0, 0x16A60, 0x16AC0,
    0x16B50, 0x1D7CE, 0x1D7D8, 0x1D7E2, 0x1D7EC, 0x1D7F6,
    0x1E140, 0x1E2F0, 0x1E950, 0x1FBF0]

/- `\d`. -/
def isDecimal (c : Char) : Bool :=
  zeros.any (fun z => z ≤ c.toNat && c.toNat < z + 10)

/- `\s`. -/
def isSpace (c : Char) : Bool :=
  let n := c.toNat
  (0x9 ≤ n && n ≤ 0xD) || (0x1C ≤ n && n ≤ 0x20) ||
    (0x2000 ≤ n && n ≤ 0x200A) ||
    [0x85, 0xA0, 0x1680, 0x2028, 0x2029, 0x202F, 0x205F,
      0x3000].contains n

/- `[A-Za-z0-9_-]`. -/
def hostChar (c : Char) : Bool :=
  c.isAlphanum || c = '_' || c = '-'

/- `[0-9a-f]`. -/
def hexDigit (c : Char) : Bool :=
  c.isDigit || ('a' ≤ c && c ≤ 'f')

--------
-- Names
--------

structure TemplateCopy where
  name : String
  base : String
  host : String
  date : String
deriving DecidableEq

/- `$` matches before a newline at the end too. -/
def chompNewline (cs : List Char) : List Char :=
  if cs.getLast? = some '\n' then cs.dropLast else cs

/- The host and the date after the "@" of a name. -/
def hostAndDate
    (cs : List Char) : Option (List Char × List Char) :=
  let n := cs.length
  let host := cs.take (n - 9)
  let date := cs.drop (n - 8)
  if 10 ≤ n && cs[n - 9]? = some '-' && host.all hostChar &&
      date.all isDecimal then
    some (host, date)
  else
    none

/- `parse`: the parts of a copy's name. -/
def parse (name : String) : Option TemplateCopy :=
  match name.toList.span (· ≠ '@') with
  | ([], _) => none
  | (_, []) => none
  | (base, _ :: rest) =>
      (hostAndDate (chompNewline rest)).map (fun (host, date) =>
        { name := name
          base := String.ofList base
          host := (String.ofList host).toLower
          date := String.ofList date })

--------
-- Stamps
--------

/- A catalogue id, a build id and a checksum. -/
abbrev Stamp : Type := String × String × String

/- The fields of a line, apart by blanks and tabs. -/
def fields (line : List Char) : List (List Char) :=
  (line.splitOnP (fun c => c = ' ' || c = '\t')).filter (· ≠ [])

/- The stamp that a whole line is. -/
def stampLine (line : List Char) : Option Stamp :=
  if "tn-build:".toList.isPrefixOf line then
    match fields (line.drop 9) with
    | [image, build, sum] =>
        let digits := sum.drop 7
        if (image ++ build ++ sum).all (fun c => !isSpace c) &&
            "sha256:".toList.isPrefixOf sum &&
            digits.length = 64 && digits.all hexDigit then
          some (String.ofList image, String.ofList build,
            String.ofList digits)
        else
          none
    | _ => none
  else
    none

/- `stamp_of`: more than one stamp is no stamp. -/
def stampOf (note : Option String) : Option Stamp :=
  match
    ((note.getD "").toList.splitOn '\n').filterMap
      stampLine with
  | [stamp] => some stamp
  | _ => none

/- `stamp`, the line that a copy is annotated with. -/
def stamp : Stamp → String
| (catalogueId, buildId, checksum) =>
    "tn-build: " ++ catalogueId ++ " " ++ buildId ++ " sha256:" ++
      checksum

--------
-- Annotations
--------

/- `stamp_problem`. -/
def stampProblem
    (note : Option String)
    (want : Stamp) : Option String :=
  match stampOf note with
  | none =>
      some ("carries no single build stamp ('" ++
        stamp (want.1, want.2.1, "<sha256>") ++
        "' in its annotation)")
  | some got =>
      if got ≠ want then
        some ("is stamped " ++ got.1 ++ " build " ++ got.2.1 ++
          " sha256:" ++ String.ofList (got.2.2.toList.take 12) ++
          "..., not " ++ want.1 ++ " build " ++ want.2.1 ++
          " sha256:" ++
          String.ofList (want.2.2.toList.take 12) ++ "...")
      else none

/- `\S+`. -/
def isWord (text : List Char) : Bool :=
  text ≠ [] && text.all (fun c => !isSpace c)

/- Its parts are what the pattern asks for. -/
def fits (s : Stamp) : Bool :=
  isWord s.1.toList && isWord s.2.1.toList &&
    s.2.2.toList.length = 64 && s.2.2.toList.all hexDigit

theorem isSpace_of_hexDigit
    {c : Char}
    (hHex : hexDigit c = true) :
    isSpace c = false := by
  have hRange : 0x30 ≤ c.toNat ∧ c.toNat ≤ 0x66 := by
    unfold hexDigit Char.isDigit at hHex
    simp only [Bool.or_eq_true, Bool.and_eq_true,
      decide_eq_true_eq] at hHex
    rcases hHex with ⟨hLow, hHigh⟩ | ⟨hLow, hHigh⟩
    · exact ⟨hLow, Nat.le_trans hHigh (by decide)⟩
    · exact ⟨Nat.le_trans (by decide) hLow, hHigh⟩
  simp only [isSpace, Bool.or_eq_false_iff,
    Bool.and_eq_false_iff, decide_eq_false_iff_not,
    List.contains_eq_mem, List.mem_cons, List.not_mem_nil,
    or_false]
  omega

/- The words between single blanks are the fields. -/
theorem fields_words
    {image build sum : List Char}
    (hImage : isWord image = true)
    (hBuild : isWord build = true)
    (hSum : isWord sum = true) :
    fields (' ' :: (image ++ ' ' :: (build ++ ' ' :: sum))) =
      [image, build, sum] := by
  have hWord {word : List Char} (hWord : isWord word = true) :
      word ≠ [] ∧ ∀ c ∈ word,
        (decide (c = ' ') || decide (c = '\t')) = false := by
    unfold isWord at hWord
    rw [Bool.and_eq_true, List.all_eq_true] at hWord
    refine ⟨of_decide_eq_true hWord.1, ?_⟩
    intro c hMem
    have hNot := hWord.2 c hMem
    by_contra hBlank
    rw [Bool.not_eq_false, Bool.or_eq_true] at hBlank
    rcases hBlank with hIs | hIs <;>
      rw [of_decide_eq_true hIs] at hNot <;>
      exact absurd hNot (by decide)
  unfold fields
  rw [show ' ' :: (image ++ ' ' :: (build ++ ' ' :: sum)) =
      [] ++ ' ' :: (image ++ ' ' :: (build ++ ' ' :: sum))
      from rfl,
    List.splitOnP_append_cons_of_forall_mem
      (by rintro _ ⟨⟩) ' ' rfl,
    List.splitOnP_append_cons_of_forall_mem
      (hWord hImage).2 ' ' rfl,
    List.splitOnP_append_cons_of_forall_mem
      (hWord hBuild).2 ' ' rfl,
    List.splitOnP_eq_singleton (hWord hSum).2]
  simp [(hWord hImage).1, (hWord hBuild).1, (hWord hSum).1]

/- The line of a stamp is read as the stamp. -/
theorem stampLine_stamp
    {s : Stamp}
    (hFits : fits s = true) :
    stampLine (stamp s).toList = some s := by
  rcases s with ⟨image, build, sum⟩
  simp only [fits, Bool.and_eq_true, decide_eq_true_eq]
    at hFits
  rcases hFits with ⟨⟨⟨hImage, hBuild⟩, hLength⟩, hHex⟩
  have hSum : isWord ("sha256:".toList ++ sum.toList) = true := by
    unfold isWord
    rw [Bool.and_eq_true, List.all_append]
    refine ⟨by simp, ?_⟩
    rw [Bool.and_eq_true]
    refine ⟨by decide, ?_⟩
    rw [List.all_eq_true] at hHex ⊢
    intro c hMem
    rw [isSpace_of_hexDigit (hHex c hMem)]
    rfl
  have hText : (stamp (image, build, sum)).toList =
      "tn-build:".toList ++ ' ' :: (image.toList ++
        ' ' :: (build.toList ++
          ' ' :: ("sha256:".toList ++ sum.toList))) := by
    simp [stamp]
  have hAll : (image.toList ++ build.toList ++
      ("sha256:".toList ++ sum.toList)).all
        (fun c => !isSpace c) = true := by
    simp only [isWord, Bool.and_eq_true] at hImage hBuild hSum
    rw [List.all_append, List.all_append, hImage.2, hBuild.2,
      hSum.2]
    rfl
  unfold stampLine
  rw [hText, if_pos (by simp)]
  have hRest : ("tn-build:".toList ++ ' ' :: (image.toList ++
        ' ' :: (build.toList ++ ' ' ::
          ("sha256:".toList ++ sum.toList)))).drop 9 =
      ' ' :: (image.toList ++ ' ' :: (build.toList ++
        ' ' :: ("sha256:".toList ++ sum.toList))) := rfl
  have hDigits : ("sha256:".toList ++ sum.toList).drop 7 =
      sum.toList := rfl
  rw [hRest, fields_words hImage hBuild hSum]
  dsimp only
  rw [hDigits, hAll, hLength, hHex]
  simp

theorem notMem_stamp
    {s : Stamp}
    (hFits : fits s = true) :
    '\n' ∉ (stamp s).toList := by
  rcases s with ⟨image, build, sum⟩
  simp only [fits, isWord, Bool.and_eq_true, List.all_eq_true]
    at hFits
  rcases hFits with ⟨⟨⟨⟨_, hImage⟩, _, hBuild⟩, _⟩, hHex⟩
  have hNot {text : List Char}
      (hText : ∀ c ∈ text, (!isSpace c) = true) :
      '\n' ∉ text := by
    intro hMem
    exact absurd (hText _ hMem) (by decide)
  have hSum : '\n' ∉ sum.toList := by
    intro hMem
    exact absurd (hHex _ hMem) (by decide)
  simp [stamp, hNot hImage, hNot hBuild, hSum]

/-
  An annotation in which one line is the stamp of a build and
  no other line is a stamp proves that build, and no other.
-/
theorem stampProblem_annotated
    {before after : List (List Char)}
    {s : Stamp}
    (hLines : ∀ line ∈ before ++ after,
      '\n' ∉ line ∧ stampLine line = none)
    (hFits : fits s = true)
    (want : Stamp) :
    stampProblem
        (some (String.ofList (['\n'].intercalate
          (before ++ (stamp s).toList :: after)))) want = none ↔
      want = s := by
  have hBreaks : ∀ line ∈ before ++ (stamp s).toList :: after,
      '\n' ∉ line := by
    intro line hMem
    rcases List.mem_append.mp hMem with hBefore | hRest
    · exact (hLines line (List.mem_append_left _ hBefore)).1
    · rcases List.mem_cons.mp hRest with rfl | hAfter
      · exact notMem_stamp hFits
      · exact (hLines line (List.mem_append_right _ hAfter)).1
  have hSplit := List.splitOn_intercalate '\n' hBreaks (by simp)
  have hNone (lines : List (List Char))
      (hSub : ∀ line ∈ lines, line ∈ before ++ after) :
      lines.filterMap stampLine = [] := by
    rw [List.filterMap_eq_nil_iff]
    exact fun line hMem => (hLines line (hSub line hMem)).2
  have hStamp : stampOf (some (String.ofList
      (['\n'].intercalate (before ++ (stamp s).toList :: after)))) =
        some s := by
    unfold stampOf
    rw [Option.getD_some, String.toList_ofList, hSplit,
      List.filterMap_append, List.filterMap_cons,
      stampLine_stamp hFits,
      hNone before (fun _ => List.mem_append_left _),
      hNone after (fun _ => List.mem_append_right _)]
    rfl
  unfold stampProblem
  rw [hStamp]
  by_cases hSame : s = want
  · simp [hSame]
  · simp [hSame, Ne.symm hSame]

theorem stampProblem_noted :
    stampProblem
        (some (String.ofList (['\n'].intercalate
          (["Built by Packer".toList] ++
            (stamp ("srv2022", "b7", String.ofList
              (List.replicate 64 'a'))).toList :: []))))
        ("srv2022", "b7",
          String.ofList (List.replicate 64 'a')) = none :=
  (stampProblem_annotated (by decide) (by decide)
    _).mpr rfl

end TemplateCopies

end TrueNorth
