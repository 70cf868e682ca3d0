import Mathlib.Data.Nat.Digits.Defs
import TrueNorth.Lib.Texts

/-
  The text forms of IP addresses: four decimal octets, or
  eight hexadecimal groups of which one run of zeros may be
  left out.

  Key definitions include:
    * `IpText.v4Text`
    * `IpText.v4?`
    * `IpText.v6Text`
    * `IpText.v6?`

  Main theorems:
    * `IpText.v4?_v4Text`
    * `IpText.v6?_v6Text`
-/

--------
-- Four Octets
--------

namespace IpText

/- Decimal digits, and ASCII ones only. -/
def isDecimal (text : List Char) : Bool :=
  text ≠ [] && text.all Char.isDigit

def octet? (text : List Char) : Option Nat :=
  if isDecimal text && text.length ≤ 3 &&
      (text = ['0'] || text.head? ≠ some '0') then
    let n := Nat.ofDigitChars 10 text 0
    if n ≤ 255 then some n else none
  else none

def v4? (text : List Char) : Option Nat :=
  match text.splitOn '.' with
  | [a, b, c, d] => do
      let a ← octet? a
      let b ← octet? b
      let c ← octet? c
      let d ← octet? d
      some (((a * 256 + b) * 256 + c) * 256 + d)
  | _ => none

def octets (n : Nat) : List Nat :=
  [n / 16777216 % 256, n / 65536 % 256, n / 256 % 256, n % 256]

def v4Text (n : Nat) : List Char :=
  ['.'].intercalate ((octets n).map (Nat.toDigits 10))

theorem octet?_toDigits :
    ∀ n < 256, octet? (Nat.toDigits 10 n) = some n := by
  decide +kernel

theorem not_mem_toDigits
    {c : Char}
    (hNot : c.isDigit = false)
    (n : Nat) :
    c ∉ Nat.toDigits 10 n := by
  intro hMem
  have hDigit := Nat.isDigit_of_mem_toDigits
    (by decide) (by decide) hMem
  rw [hNot] at hDigit
  cases hDigit

/- What an address is written as is read as that address. -/
theorem v4?_v4Text
    {n : Nat}
    (hn : n < 2 ^ 32) :
    v4? (v4Text n) = some n := by
  have hDots :
      ∀ text ∈ (octets n).map (Nat.toDigits 10),
        '.' ∉ text := by
    intro text hText
    rcases List.mem_map.mp hText with ⟨m, _, rfl⟩
    exact not_mem_toDigits (by decide) m
  have hSplit := List.splitOn_intercalate '.' hDots
    (by simp [octets])
  have hOctet (m : Nat) :
      octet? (Nat.toDigits 10 (m % 256)) = some (m % 256) :=
    octet?_toDigits _ (Nat.mod_lt _ (by omega))
  unfold v4? v4Text
  rw [hSplit]
  simp only [octets, List.map_cons, List.map_nil, hOctet,
    Option.bind_eq_bind, Option.bind_some, Option.some.injEq]
  omega

--------
-- Groups Of Hexadecimal Digits
--------

open Texts

def hextet? (text : List Char) : Option Nat :=
  if text ≠ [] && text.length ≤ 4 then
    (text.mapM hexValue?).map ofDigits
  else none

def hextetText (n : Nat) : List Char :=
  Nat.toDigits 16 n

/- The digits of a number, each below the base. -/
theorem toDigits_eq_map
    (n : Nat) :
    ∃ digits : List Nat,
      Nat.toDigits 16 n = digits.map Nat.digitChar ∧
      (∀ d ∈ digits, d < 16) ∧ ofDigits digits = n := by
  induction n using Nat.strongRecOn with
  | ind n ih =>
      by_cases hSmall : n < 16
      · refine ⟨[n], ?_, by simpa using hSmall, ?_⟩
        · rw [Nat.toDigits_of_lt_base hSmall]
          rfl
        · simp [ofDigits]
      · rcases ih (n / 16) (by omega) with
          ⟨digits, hText, hDigits, hValue⟩
        have hLast : n % 16 < 16 := Nat.mod_lt _ (by omega)
        have hStep := Nat.toDigits_append_toDigits (b := 16)
          (n := n / 16) (d := n % 16) (by omega) (by omega)
          hLast
        rw [Nat.div_add_mod, hText,
          Nat.toDigits_of_lt_base hLast] at hStep
        refine ⟨digits ++ [n % 16], ?_, ?_, ?_⟩
        · rw [← hStep, List.map_append]
          rfl
        · intro d hMem
          rcases List.mem_append.mp hMem with hInit | hEnd
          · exact hDigits d hInit
          · rw [List.mem_singleton.mp hEnd]
            exact hLast
        · unfold ofDigits at hValue ⊢
          rw [List.foldl_append, hValue]
          simp only [List.foldl_cons, List.foldl_nil]
          omega

theorem mapM_hexValue?
    {digits : List Nat}
    (hDigits : ∀ d ∈ digits, d < 16) :
    (digits.map Nat.digitChar).mapM hexValue? =
      some digits := by
  induction digits with
  | nil => rfl
  | cons d digits ih =>
      have hFirst := hexValue?_digitChar d
        (hDigits d List.mem_cons_self)
      have hRest := ih (fun d' hMem =>
        hDigits d' (List.mem_cons_of_mem _ hMem))
      rw [List.map_cons, List.mapM_cons, hFirst, hRest]
      rfl

theorem hextetText_ne_nil (n : Nat) : hextetText n ≠ [] :=
  Nat.toDigits_ne_nil

theorem hextet?_hextetText
    {n : Nat}
    (hn : n < 65536) :
    hextet? (hextetText n) = some n := by
  have hLength : (hextetText n).length ≤ 4 :=
    Nat.toDigits_length 16 n 4 (by omega) hn
  rcases toDigits_eq_map n with ⟨digits, hText, hDigits, hValue⟩
  have hRead := mapM_hexValue? hDigits
  rw [← hText] at hRead
  unfold hextet?
  rw [if_pos (by simp [hextetText_ne_nil, hLength])]
  unfold hextetText
  rw [hRead, Option.map_some, hValue]

/- No text of a group has a mark of the address in it. -/
theorem not_mem_hextetText
    {c : Char}
    (hNot : ∀ d < 16, Nat.digitChar d ≠ c)
    (n : Nat) :
    c ∉ hextetText n := by
  intro hMem
  rcases toDigits_eq_map n with ⟨digits, hText, hDigits, _⟩
  unfold hextetText at hMem
  rw [hText] at hMem
  rcases List.mem_map.mp hMem with ⟨d, hIn, hSame⟩
  exact hNot d (hDigits d hIn) hSame

--------
-- Runs Of Zeros
--------

/- The longest run of zeros so far, and the run at the end. -/
structure Zeros where
  best : Nat
  bestLength : Nat
  start : Nat
  length : Nat

def Zeros.step
    (z : Zeros)
    (index group : Nat) : Zeros :=
  if group = 0 then
    let start := if z.length = 0 then index else z.start
    let length := z.length + 1
    if z.bestLength < length then
      { best := start, bestLength := length,
        start := start, length := length }
    else { z with start := start, length := length }
  else { z with start := 0, length := 0 }

def Zeros.scan :
    Zeros → Nat → List Nat → Zeros
| z, _, [] => z
| z, index, group :: groups =>
    (z.step index group).scan (index + 1) groups

def zeros (groups : List Nat) : Zeros :=
  Zeros.scan ⟨0, 0, 0, 0⟩ 0 groups

/- Both runs lie in what was read, and hold zeros only. -/
structure Zeros.Sound
    (z : Zeros)
    (read : List Nat) : Prop where
  best : z.best + z.bestLength ≤ read.length
  bestZero : ∀ i, z.best ≤ i → i < z.best + z.bestLength →
    read[i]? = some 0
  last : z.length ≠ 0 → z.start + z.length = read.length
  lastZero : ∀ i, z.start ≤ i → i < z.start + z.length →
    read[i]? = some 0

theorem Zeros.Sound.step
    {z : Zeros}
    {read : List Nat}
    (hSound : z.Sound read)
    (group : Nat) :
    (z.step read.length group).Sound (read ++ [group]) := by
  have hOld : ∀ i : Nat, read[i]? = some 0 →
      (read ++ [group])[i]? = some 0 := by
    intro i hi
    rcases List.getElem?_eq_some_iff.mp hi with ⟨hLt, _⟩
    rw [List.getElem?_append_left hLt, hi]
  unfold Zeros.step
  by_cases hZero : group = 0
  · rw [if_pos hZero]
    have hNew : (read ++ [group])[read.length]? = some 0 := by
      rw [List.getElem?_append_right (Nat.le_refl _),
        Nat.sub_self, hZero]
      rfl
    have hRun : ∀ i,
        (if z.length = 0 then read.length else z.start) ≤ i →
        i < (if z.length = 0 then read.length else z.start) +
          (z.length + 1) →
        (read ++ [group])[i]? = some 0 := by
      intro i hFrom hTo
      by_cases hLength : z.length = 0
      · rw [if_pos hLength] at hFrom hTo
        have hi : i = read.length := by omega
        rw [hi]
        exact hNew
      · rw [if_neg hLength] at hFrom hTo
        have hEnd := hSound.last hLength
        by_cases hi : i = read.length
        · rw [hi]
          exact hNew
        · exact hOld i (hSound.lastZero i hFrom (by omega))
    have hReach :
        (if z.length = 0 then read.length else z.start) +
          (z.length + 1) = (read ++ [group]).length := by
      rw [List.length_append, List.length_singleton]
      by_cases hLength : z.length = 0
      · rw [if_pos hLength, hLength]
      · rw [if_neg hLength]
        have hEnd := hSound.last hLength
        omega
    by_cases hBest : z.bestLength < z.length + 1
    · rw [if_pos hBest]
      exact ⟨Nat.le_of_eq hReach, hRun, fun _ => hReach, hRun⟩
    · rw [if_neg hBest]
      have hRead := hSound.best
      refine ⟨?_, ?_, fun _ => hReach, hRun⟩
      · show z.best + z.bestLength ≤ (read ++ [group]).length
        rw [List.length_append]
        omega
      · intro i hFrom hTo
        exact hOld i (hSound.bestZero i hFrom hTo)
  · rw [if_neg hZero]
    have hRead := hSound.best
    refine ⟨?_, ?_, ?_, ?_⟩
    · show z.best + z.bestLength ≤ (read ++ [group]).length
      rw [List.length_append]
      omega
    · intro i hFrom hTo
      exact hOld i (hSound.bestZero i hFrom hTo)
    · intro hLength
      exact absurd rfl hLength
    · intro i _ hTo
      exact absurd hTo (Nat.not_lt_zero i)

theorem Zeros.Sound.scan
    {z : Zeros}
    {read : List Nat}
    (hSound : z.Sound read)
    (groups : List Nat) :
    (z.scan read.length groups).Sound (read ++ groups) := by
  induction groups generalizing z read with
  | nil =>
      rw [List.append_nil]
      exact hSound
  | cons group groups ih =>
      have hNext := ih (hSound.step group)
      rw [List.length_append, List.length_singleton,
        List.append_assoc] at hNext
      exact hNext

theorem zeros_sound (groups : List Nat) :
    (zeros groups).Sound groups := by
  have hNone : Zeros.Sound ⟨0, 0, 0, 0⟩ [] :=
    ⟨Nat.le_refl _, fun i _ hTo => absurd hTo (Nat.not_lt_zero i),
      fun _ => rfl, fun i _ hTo => absurd hTo (Nat.not_lt_zero i)⟩
  exact hNone.scan groups

/- What stands before the run, the run, what stands after. -/
theorem eq_of_zeros
    (groups : List Nat) :
    groups = groups.take (zeros groups).best ++
      (List.replicate (zeros groups).bestLength 0 ++
        groups.drop
          ((zeros groups).best + (zeros groups).bestLength)) := by
  have hSound := zeros_sound groups
  have hRun : (groups.drop (zeros groups).best).take
      (zeros groups).bestLength =
        List.replicate (zeros groups).bestLength 0 := by
    refine List.ext_getElem? (fun i => ?_)
    by_cases hi : i < (zeros groups).bestLength
    · rw [List.getElem?_take_of_lt hi, List.getElem?_drop,
        hSound.bestZero _ (Nat.le_add_right _ _) (by omega),
        List.getElem?_replicate_of_lt hi]
    · rw [List.getElem?_eq_none (by simp; omega),
        List.getElem?_eq_none (by simpa using hi)]
  rw [← hRun, ← List.drop_drop, List.take_append_drop,
    List.take_append_drop]

--------
-- Eight Groups
--------

def groups :
    Nat → Nat → List Nat
| 0, _ => []
| count + 1, n => groups count (n / 65536) ++ [n % 65536]

def ofGroups (gs : List Nat) : Nat :=
  gs.foldl (fun n g => 65536 * n + g) 0

/- The parts between colons: one is empty for the run. -/
def compressed (gs : List Nat) : List (List Char) :=
  let z := zeros gs
  let texts := gs.map hextetText
  if 1 < z.bestLength then
    (if z.best = 0 then [[]] else []) ++
      (texts.take z.best ++ [] ::
        (texts.drop (z.best + z.bestLength) ++
          (if z.best + z.bestLength = gs.length then [[]]
            else [])))
  else texts

def v6Text (n : Nat) : List Char :=
  [':'].intercalate (compressed (groups 8 n))

/- An IPv4 address at the end stands for two groups. -/
def withoutDots (parts : List (List Char)) :
    Option (List (List Char)) :=
  match parts.getLast? with
  | none => some parts
  | some last =>
      if '.' ∈ last then
        (v4? last).map (fun n =>
          parts.dropLast ++ [hextetText (n / 65536 % 65536),
            hextetText (n % 65536)])
      else some parts

/- Where, the ends aside, a part is empty. -/
def blanks (parts : List (List Char)) : List Nat :=
  (List.range parts.length).filter (fun i =>
    0 < i && i + 1 < parts.length && parts[i]? = some [])

/- One side of the run: an empty end stands alone there. -/
def side
    (parts : List (List Char))
    (edge : Option (List Char)) : Option (List (List Char)) :=
  if edge = some [] then
    if parts.length = 1 then some [] else none
  else some parts

def v6Groups? (parts : List (List Char)) :
    Option (List Nat) :=
  match blanks parts with
  | [] =>
      if parts.length = 8 then parts.mapM hextet? else none
  | [i] => do
      let hi ← side (parts.take i) parts.head?
      let lo ← side (parts.drop (i + 1)) parts.getLast?
      if 8 ≤ hi.length + lo.length then none
      else
        let high ← hi.mapM hextet?
        let low ← lo.mapM hextet?
        some (high ++ (List.replicate
          (8 - (hi.length + lo.length)) 0 ++ low))
  | _ => none

def v6? (text : List Char) : Option Nat :=
  let parts := text.splitOn ':'
  if parts.length < 3 then none
  else do
    let parts ← withoutDots parts
    if 9 < parts.length then none
    else (v6Groups? parts).map ofGroups

--------
-- Reading Eight Groups Back
--------

theorem length_groups
    (count n : Nat) :
    (groups count n).length = count := by
  induction count generalizing n with
  | zero => rfl
  | succ count ih =>
      rw [groups, List.length_append, ih]
      rfl

theorem lt_of_mem_groups
    {count n g : Nat}
    (hMem : g ∈ groups count n) :
    g < 65536 := by
  induction count generalizing n with
  | zero => cases hMem
  | succ count ih =>
      rw [groups] at hMem
      rcases List.mem_append.mp hMem with hInit | hLast
      · exact ih hInit
      · rw [List.mem_singleton.mp hLast]
        exact Nat.mod_lt _ (by omega)

theorem ofGroups_groups
    (count n : Nat)
    (hn : n < 65536 ^ count) :
    ofGroups (groups count n) = n := by
  induction count generalizing n with
  | zero =>
      have hZero : n = 0 := by simpa using hn
      exact hZero.symm
  | succ count ih =>
      have hDiv : n / 65536 < 65536 ^ count := by
        rw [Nat.pow_succ] at hn
        omega
      have hInit := ih (n / 65536) hDiv
      unfold ofGroups at hInit ⊢
      rw [groups, List.foldl_append, hInit]
      simp only [List.foldl_cons, List.foldl_nil]
      omega

theorem mapM_hextet?
    {gs : List Nat}
    (hGroups : ∀ g ∈ gs, g < 65536) :
    (gs.map hextetText).mapM hextet? = some gs := by
  induction gs with
  | nil => rfl
  | cons g gs ih =>
      have hFirst := hextet?_hextetText
        (hGroups g List.mem_cons_self)
      have hRest := ih (fun g' hMem =>
        hGroups g' (List.mem_cons_of_mem _ hMem))
      rw [List.map_cons, List.mapM_cons, hFirst, hRest]
      rfl

/- One side of the run as it is written. -/
def padded (texts : List (List Char)) : List (List Char) :=
  if texts = [] then [[]] else texts

theorem padded_ne_nil (texts : List (List Char)) :
    padded texts ≠ [] := by
  unfold padded
  by_cases hNil : texts = []
  · rw [if_pos hNil]
    exact List.cons_ne_nil _ _
  · rw [if_neg hNil]
    exact hNil

theorem lead_append
    {texts : List (List Char)}
    {best : Nat}
    (hLength : texts.length = best) :
    (if best = 0 then [[]] else []) ++ texts = padded texts := by
  unfold padded
  by_cases hNil : texts = []
  · rw [if_pos hNil, if_pos (by rw [← hLength, hNil]; rfl), hNil]
    rfl
  · have hPos := List.length_pos_of_ne_nil hNil
    rw [if_neg hNil, if_neg (by omega), List.nil_append]

theorem append_trail
    {texts : List (List Char)}
    {reached total : Nat}
    (hLength : texts.length = 0 ↔ reached = total) :
    texts ++ (if reached = total then [[]] else []) =
      padded texts := by
  unfold padded
  by_cases hNil : texts = []
  · rw [if_pos hNil, if_pos (hLength.mp (by rw [hNil]; rfl)), hNil]
    rfl
  · have hPos := List.length_pos_of_ne_nil hNil
    rw [if_neg hNil, if_neg (fun hReached =>
      absurd (hLength.mpr hReached) (Nat.ne_of_gt hPos)),
      List.append_nil]

/- A side is read back from either of its ends. -/
theorem side_padded
    {texts : List (List Char)}
    (hTexts : [] ∉ texts)
    {edge : Option (List Char)}
    (hEdge : edge = (padded texts).head? ∨
      edge = (padded texts).getLast?) :
    side (padded texts) edge = some texts := by
  unfold padded at hEdge ⊢
  by_cases hNil : texts = []
  · rw [if_pos hNil] at hEdge ⊢
    have hSome : edge = some [] := by
      rcases hEdge with hHead | hLast
      · exact hHead
      · exact hLast
    rw [side, if_pos hSome, hNil]
    rfl
  · rw [if_neg hNil] at hEdge ⊢
    have hText : edge ≠ some [] := by
      intro hSome
      rw [hSome] at hEdge
      rcases hEdge with hHead | hLast
      · exact hTexts (List.mem_of_head? hHead.symm)
      · exact hTexts (List.mem_of_getLast? hLast.symm)
    rw [side, if_neg hText]

/- A part that is empty, the ends aside, is the run. -/
theorem blanks_padded
    {hi lo : List (List Char)}
    (hHi : [] ∉ hi)
    (hLo : [] ∉ lo) :
    blanks (padded hi ++ [] :: padded lo) =
      [(padded hi).length] := by
  have hHiLength := List.length_pos_of_ne_nil
    (padded_ne_nil hi)
  have hLoLength := List.length_pos_of_ne_nil
    (padded_ne_nil lo)
  have hNone (side : List (List Char))
      (hSide : [] ∉ side)
      (i : Nat)
      (hi : (padded side)[i]? = some []) :
      (padded side).length = 1 ∧ i = 0 := by
    unfold padded at hi ⊢
    by_cases hNil : side = []
    · rw [if_pos hNil] at hi ⊢
      rcases List.getElem?_eq_some_iff.mp hi with ⟨hLt, _⟩
      exact ⟨rfl, Nat.lt_one_iff.mp hLt⟩
    · rw [if_neg hNil] at hi
      exact absurd (List.mem_of_getElem? hi) hSide
  unfold blanks
  rw [← List.perm_singleton]
  refine (List.perm_ext_iff_of_nodup
    (List.nodup_range.filter _) (by simp)).mpr (fun i => ?_)
  rw [List.mem_filter, List.mem_range, List.mem_singleton,
    List.length_append, List.length_cons]
  simp only [Bool.and_eq_true, decide_eq_true_eq]
  constructor
  · rintro ⟨hLt, ⟨hPos, hNext⟩, hBlank⟩
    rcases Nat.lt_trichotomy i (padded hi).length with
      hBefore | hAt | hAfter
    · rw [List.getElem?_append_left hBefore] at hBlank
      have hFirst := hNone hi hHi i hBlank
      omega
    · exact hAt
    · rw [List.getElem?_append_right (by omega)] at hBlank
      have hIndex : i - (padded hi).length =
          (i - (padded hi).length - 1) + 1 := by omega
      rw [hIndex, List.getElem?_cons_succ] at hBlank
      have hLast := hNone lo hLo _ hBlank
      omega
  · intro hAt
    refine ⟨by omega, ⟨by omega, by omega⟩, ?_⟩
    rw [List.getElem?_append_right (by omega), hAt,
      Nat.sub_self]
    rfl

/- Two sides with a run of zeros between them. -/
theorem v6Groups?_padded
    {hi lo : List Nat}
    (hHi : ∀ g ∈ hi, g < 65536)
    (hLo : ∀ g ∈ lo, g < 65536)
    (hLength : hi.length + lo.length < 8) :
    v6Groups? (padded (hi.map hextetText) ++
        [] :: padded (lo.map hextetText)) =
      some (hi ++ (List.replicate
        (8 - (hi.length + lo.length)) 0 ++ lo)) := by
  have hTexts (gs : List Nat) : [] ∉ gs.map hextetText := by
    intro hMem
    rcases List.mem_map.mp hMem with ⟨g, _, hNil⟩
    exact hextetText_ne_nil g hNil
  have hSome := padded_ne_nil (lo.map hextetText)
  have hHead : (padded (hi.map hextetText) ++
      [] :: padded (lo.map hextetText)).head? =
        (padded (hi.map hextetText)).head? :=
    List.head?_append_of_ne_nil _ (padded_ne_nil _)
  have hLast : (padded (hi.map hextetText) ++
      [] :: padded (lo.map hextetText)).getLast? =
        (padded (lo.map hextetText)).getLast? := by
    rw [List.getLast?_append_of_ne_nil _ (List.cons_ne_nil _ _),
      List.getLast?_cons_of_ne_nil hSome]
  have hTake : (padded (hi.map hextetText) ++
      [] :: padded (lo.map hextetText)).take
        (padded (hi.map hextetText)).length =
          padded (hi.map hextetText) :=
    List.take_left
  have hDrop : (padded (hi.map hextetText) ++
      [] :: padded (lo.map hextetText)).drop
        ((padded (hi.map hextetText)).length + 1) =
          padded (lo.map hextetText) := by
    rw [← List.drop_drop, List.drop_left]
    rfl
  unfold v6Groups?
  rw [blanks_padded (hTexts hi) (hTexts lo)]
  simp only [hHead, hLast, hTake, hDrop,
    side_padded (hTexts hi) (.inl rfl),
    side_padded (hTexts lo) (.inr rfl), Option.bind_eq_bind,
    Option.bind_some, List.length_map, mapM_hextet? hHi,
    mapM_hextet? hLo]
  rw [if_neg (by omega)]

/- Texts that are all there are read one by one. -/
theorem v6Groups?_full
    {gs : List Nat}
    (hGroups : ∀ g ∈ gs, g < 65536)
    (hLength : gs.length = 8) :
    v6Groups? (gs.map hextetText) = some gs := by
  have hNone : blanks (gs.map hextetText) = [] := by
    refine List.filter_eq_nil_iff.mpr (fun i _ => ?_)
    have hText : (gs.map hextetText)[i]? ≠ some [] := by
      intro hBlank
      rcases List.mem_map.mp (List.mem_of_getElem? hBlank) with
        ⟨g, _, hNil⟩
      exact hextetText_ne_nil g hNil
    intro hAll
    simp only [Bool.and_eq_true, decide_eq_true_eq] at hAll
    exact hText hAll.2
  unfold v6Groups?
  rw [hNone]
  show (if (gs.map hextetText).length = 8 then _ else _) = _
  rw [if_pos (by rw [List.length_map, hLength]),
    mapM_hextet? hGroups]

/- What a list of eight groups is written as gives it back. -/
theorem v6Groups?_compressed
    {gs : List Nat}
    (hGroups : ∀ g ∈ gs, g < 65536)
    (hLength : gs.length = 8) :
    v6Groups? (compressed gs) = some gs := by
  unfold compressed
  by_cases hRun : 1 < (zeros gs).bestLength
  · have hSplit := eq_of_zeros gs
    have hBest := (zeros_sound gs).best
    have hHi : ∀ g ∈ gs.take (zeros gs).best, g < 65536 :=
      fun g hMem => hGroups g (List.mem_of_mem_take hMem)
    have hLo : ∀ g ∈ gs.drop
        ((zeros gs).best + (zeros gs).bestLength), g < 65536 :=
      fun g hMem => hGroups g (List.mem_of_mem_drop hMem)
    have hTake : (gs.take (zeros gs).best).length =
        (zeros gs).best := by
      rw [List.length_take]
      omega
    have hDrop : (gs.drop
        ((zeros gs).best + (zeros gs).bestLength)).length =
          8 - ((zeros gs).best + (zeros gs).bestLength) := by
      rw [List.length_drop, hLength]
    have hRead := v6Groups?_padded hHi hLo (by omega)
    rw [hTake, hDrop] at hRead
    have hZeros : 8 - ((zeros gs).best +
        (8 - ((zeros gs).best + (zeros gs).bestLength))) =
          (zeros gs).bestLength := by omega
    rw [hZeros, ← hSplit, List.map_take, List.map_drop] at hRead
    have hLead :
        (if (zeros gs).best = 0 then [[]] else []) ++
            (gs.map hextetText).take (zeros gs).best =
          padded ((gs.map hextetText).take (zeros gs).best) :=
      lead_append (by rw [← List.map_take, List.length_map,
        hTake])
    have hTrail :
        (gs.map hextetText).drop
              ((zeros gs).best + (zeros gs).bestLength) ++
            (if (zeros gs).best + (zeros gs).bestLength =
              gs.length then [[]] else []) =
          padded ((gs.map hextetText).drop
            ((zeros gs).best + (zeros gs).bestLength)) :=
      append_trail (by
        rw [← List.map_drop, List.length_map, hDrop, hLength]
        omega)
    simp only [if_pos hRun]
    rw [hTrail, ← List.append_assoc, hLead, hRead]
  · simp only [if_neg hRun]
    exact v6Groups?_full hGroups hLength

/- Between colons no part holds a colon or a dot. -/
theorem not_mem_compressed
    {c : Char}
    (hNot : ∀ d < 16, Nat.digitChar d ≠ c)
    (gs : List Nat) :
    ∀ text ∈ compressed gs, c ∉ text := by
  have hTexts : ∀ text ∈ gs.map hextetText, c ∉ text := by
    intro text hText
    rcases List.mem_map.mp hText with ⟨g, _, rfl⟩
    exact not_mem_hextetText hNot g
  have hBlank (p : Prop) [Decidable p] :
      ∀ text ∈ (if p then [([] : List Char)] else []),
        c ∉ text := by
    intro text hText
    by_cases hp : p
    · rw [if_pos hp, List.mem_singleton] at hText
      rw [hText]
      exact List.not_mem_nil
    · rw [if_neg hp] at hText
      cases hText
  intro text hText
  unfold compressed at hText
  by_cases hRun : 1 < (zeros gs).bestLength
  · simp only [if_pos hRun, List.mem_append, List.mem_cons]
      at hText
    rcases hText with hLead | hTake | hNil | hDrop | hTrail
    · exact hBlank _ text hLead
    · exact hTexts text (List.mem_of_mem_take hTake)
    · rw [hNil]
      exact List.not_mem_nil
    · exact hTexts text (List.mem_of_mem_drop hDrop)
    · exact hBlank _ text hTrail
  · simp only [if_neg hRun] at hText
    exact hTexts text hText

theorem not_mem_intercalate
    {c sep : Char}
    (hSep : c ≠ sep)
    {texts : List (List Char)}
    (hTexts : ∀ text ∈ texts, c ∉ text) :
    c ∉ [sep].intercalate texts := by
  induction texts with
  | nil => exact List.not_mem_nil
  | cons text texts ih =>
      have hFirst := hTexts text List.mem_cons_self
      have hRest := ih (fun other hMem =>
        hTexts other (List.mem_cons_of_mem _ hMem))
      cases texts with
      | nil =>
          rw [List.intercalate_singleton]
          exact hFirst
      | cons next texts =>
          rw [List.intercalate_cons_cons]
          simp only [List.mem_append, List.mem_singleton,
            not_or]
          exact ⟨⟨hFirst, hSep⟩, hRest⟩

theorem not_mem_v6Text
    {c : Char}
    (hNot : ∀ d < 16, Nat.digitChar d ≠ c)
    (hColon : c ≠ ':')
    (n : Nat) :
    c ∉ v6Text n :=
  not_mem_intercalate hColon (not_mem_compressed hNot _)

theorem length_compressed
    {gs : List Nat}
    (hLength : gs.length = 8) :
    3 ≤ (compressed gs).length ∧
      (compressed gs).length ≤ 9 := by
  have hBest := (zeros_sound gs).best
  unfold compressed
  by_cases hRun : 1 < (zeros gs).bestLength
  · simp only [if_pos hRun, List.length_append,
      List.length_cons, List.length_take, List.length_drop,
      List.length_map, hLength]
    split_ifs <;> simp <;> omega
  · simp only [if_neg hRun, List.length_map, hLength]
    omega

/- What an address is written as is read as that address. -/
theorem v6?_v6Text
    {n : Nat}
    (hn : n < 2 ^ 128) :
    v6? (v6Text n) = some n := by
  have hLength := length_groups 8 n
  have hGroups : ∀ g ∈ groups 8 n, g < 65536 :=
    fun g hMem => lt_of_mem_groups hMem
  have hCount := length_compressed hLength
  have hColons := not_mem_compressed (c := ':') (by decide)
    (groups 8 n)
  have hDots := not_mem_compressed (c := '.') (by decide)
    (groups 8 n)
  have hNe : compressed (groups 8 n) ≠ [] :=
    List.ne_nil_of_length_pos (by omega)
  have hSplit := List.splitOn_intercalate ':' hColons hNe
  have hPlain : withoutDots (compressed (groups 8 n)) =
      some (compressed (groups 8 n)) := by
    unfold withoutDots
    rw [List.getLast?_eq_some_getLast hNe]
    exact if_neg (hDots _ (List.getLast_mem hNe))
  unfold v6? v6Text
  simp only [hSplit]
  rw [if_neg (by omega), hPlain]
  simp only [Option.bind_eq_bind, Option.bind_some]
  rw [if_neg (by omega), v6Groups?_compressed hGroups hLength,
    Option.map_some, ofGroups_groups 8 n hn]

end IpText
