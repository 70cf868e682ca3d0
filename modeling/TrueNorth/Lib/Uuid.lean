import Mathlib.Algebra.Group.Nat.Defs
import TrueNorth.Lib.Texts

/-
  The text of a 128-bit UUID, and the number that a text
  stands for: 32 hexadecimal digits, with hyphens, braces
  and a URN prefix optional.

  Key definitions include:
    * `Uuid.text`
    * `Uuid.parse?`

  Main theorem:
    * `Uuid.parse?_text`
-/

--------
-- Hexadecimal Digits
--------

namespace Uuid

open Texts

/- Digits of a number, most significant first. -/
def hexPad :
    Nat → Nat → List Char
| 0, _ => []
| width + 1, n =>
    hexPad width (n / 16) ++ [Nat.digitChar (n % 16)]

@[simp] theorem length_hexPad
    (width n : Nat) :
    (hexPad width n).length = width := by
  induction width generalizing n with
  | zero => rfl
  | succ width ih =>
      rw [hexPad, List.length_append, ih]
      rfl

theorem mem_hexPad
    {width n : Nat}
    {c : Char}
    (hMem : c ∈ hexPad width n) :
    ∃ d < 16, c = Nat.digitChar d := by
  induction width generalizing n with
  | zero => cases hMem
  | succ width ih =>
      rw [hexPad] at hMem
      rcases List.mem_append.mp hMem with hInit | hLast
      · exact ih hInit
      · exact ⟨n % 16, Nat.mod_lt _ (by omega),
          List.mem_singleton.mp hLast⟩

/- The digits of a number give it back. -/
theorem ofDigits_hexPad
    (width n : Nat)
    (hn : n < 16 ^ width) :
    ∃ digits : List Nat, hexPad width n =
      digits.map Nat.digitChar ∧
      (∀ d ∈ digits, d < 16) ∧ ofDigits digits = n := by
  induction width generalizing n with
  | zero =>
      have hZero : n = 0 := by simpa using hn
      exact ⟨[], rfl, by simp, hZero.symm⟩
  | succ width ih =>
      have hDiv : n / 16 < 16 ^ width := by
        rw [Nat.pow_succ] at hn
        omega
      have hLast : n % 16 < 16 := Nat.mod_lt _ (by omega)
      rcases ih (n / 16) hDiv with
        ⟨digits, hPad, hDigits, hValue⟩
      refine ⟨digits ++ [n % 16], ?_, ?_, ?_⟩
      · rw [hexPad, hPad, List.map_append]
        rfl
      · intro d hMem
        rcases List.mem_append.mp hMem with hInit | hEnd
        · exact hDigits d hInit
        · rw [List.mem_singleton.mp hEnd]
          exact hLast
      · unfold ofDigits at hValue ⊢
        rw [List.foldl_append, hValue]
        simp only [List.foldl_cons, List.foldl_nil]
        omega

--------
-- Texts
--------

open Texts

/- `str(uuid)`: in groups of 8, 4, 4, 4 and 12 digits. -/
def text (n : Nat) : String :=
  let digits := hexPad 32 n
  String.ofList
    (digits.take 8 ++ '-' ::
      ((digits.drop 8).take 4 ++ '-' ::
        ((digits.drop 12).take 4 ++ '-' ::
          ((digits.drop 16).take 4 ++ '-' ::
            digits.drop 20))))

/- Every occurrence of a text removed, as `replace` does. -/
def removed (gone : List Char) :
    Nat → List Char → List Char
| 0, text => text
| _, [] => []
| fuel + 1, c :: rest =>
    if gone.isPrefixOf (c :: rest) then
      removed gone fuel ((c :: rest).drop gone.length)
    else c :: removed gone fuel rest

/- `uuid.UUID(text).int`. -/
def parse? (text : String) : Option Nat :=
  let plain := text.toList
  let plain := removed "urn:".toList plain.length plain
  let plain := removed "uuid:".toList plain.length plain
  let plain :=
    trimmed (fun c => c = '\x7b' || c = '\x7d') plain
  let digits := plain.filter (· ≠ '-')
  if digits.length = 32 then
    match hexInt? digits with
    | some (.ofNat n) => if n < 2 ^ 128 then some n else none
    | _ => none
  else
    none

/- What a text never begins with is not in it. -/
theorem removed_eq
    {first : Char}
    {gone : List Char}
    (fuel : Nat)
    {text : List Char}
    (hNot : first ∉ text) :
    removed (first :: gone) fuel text = text := by
  induction fuel generalizing text with
  | zero => rw [removed]
  | succ fuel ih =>
      cases text with
      | nil => rw [removed]; simp
      | cons c rest =>
          have hHead : first ≠ c :=
            fun hSame => hNot (hSame ▸ List.mem_cons_self)
          rw [removed, if_neg (by simp [hHead]),
            ih (fun hMem => hNot (List.mem_cons_of_mem _ hMem))]

theorem mem_text
    {n : Nat}
    {c : Char}
    (hMem : c ∈ (text n).toList) :
    c = '-' ∨ ∃ d < 16, c = Nat.digitChar d := by
  unfold text at hMem
  rw [String.toList_ofList] at hMem
  simp only [List.mem_append, List.mem_cons] at hMem
  rcases hMem with h | h | h | h | h | h | h | h | h
  · exact .inr (mem_hexPad (List.mem_of_mem_take h))
  · exact .inl h
  · exact .inr (mem_hexPad
      (List.mem_of_mem_drop (List.mem_of_mem_take h)))
  · exact .inl h
  · exact .inr (mem_hexPad
      (List.mem_of_mem_drop (List.mem_of_mem_take h)))
  · exact .inl h
  · exact .inr (mem_hexPad
      (List.mem_of_mem_drop (List.mem_of_mem_take h)))
  · exact .inl h
  · exact .inr (mem_hexPad (List.mem_of_mem_drop h))

theorem digitChar_ne :
    ∀ d < 16, Nat.digitChar d ≠ '-' ∧ Nat.digitChar d ≠ 'u' ∧
      Nat.digitChar d ≠ '\x7b' ∧ Nat.digitChar d ≠ '\x7d' := by
  decide

/- The digits of a text, without its hyphens. -/
theorem filter_text
    (n : Nat) :
    (text n).toList.filter (· ≠ '-') = hexPad 32 n := by
  have hKept (cs : List Char)
      (hCs : cs ⊆ hexPad 32 n) :
      cs.filter (· ≠ '-') = cs := by
    apply List.filter_eq_self.mpr
    intro c hMem
    rcases mem_hexPad (hCs hMem) with ⟨d, hd, rfl⟩
    exact decide_eq_true (digitChar_ne d hd).1
  have hDrop (i : Nat) : (hexPad 32 n).drop i ⊆ hexPad 32 n :=
    fun _ hMem => List.mem_of_mem_drop hMem
  have hTake (i j : Nat) :
      ((hexPad 32 n).drop i).take j ⊆ hexPad 32 n :=
    fun _ hMem => hDrop i (List.mem_of_mem_take hMem)
  have hDash (cs : List Char) :
      ('-' :: cs).filter (· ≠ '-') = cs.filter (· ≠ '-') :=
    List.filter_cons_of_neg (by simp)
  unfold text
  rw [String.toList_ofList]
  simp only [List.filter_append, hDash]
  rw [hKept _ (fun _ hMem => List.mem_of_mem_take hMem),
    hKept _ (hTake 8 4), hKept _ (hTake 12 4),
    hKept _ (hTake 16 4), hKept _ (hDrop 20)]
  -- each part goes on where the one before it ends
  have hJoin (i j : Nat) :
      ((hexPad 32 n).drop i).take j ++
        (hexPad 32 n).drop (i + j) = (hexPad 32 n).drop i := by
    rw [← List.drop_drop]
    exact List.take_append_drop j _
  rw [hJoin 16 4, hJoin 12 4, hJoin 8 4]
  exact List.take_append_drop 8 _

/- The text of a UUID stands for it. -/
theorem parse?_text
    {n : Nat}
    (hn : n < 2 ^ 128) :
    parse? (text n) = some n := by
  have hNone : 'u' ∉ (text n).toList := by
    intro hMem
    rcases mem_text hMem with hDash | ⟨d, hd, hDigit⟩
    · exact absurd hDash (by decide)
    · exact (digitChar_ne d hd).2.1 hDigit.symm
  have hPlain : ∀ c ∈ (text n).toList,
      (decide (c = '\x7b') || decide (c = '\x7d')) = false := by
    intro c hMem
    rcases mem_text hMem with rfl | ⟨d, hd, rfl⟩
    · rfl
    · simp [digitChar_ne d hd]
  have hUrn :
      removed "urn:".toList (text n).toList.length
        (text n).toList = (text n).toList :=
    removed_eq _ hNone
  have hUuid :
      removed "uuid:".toList (text n).toList.length
        (text n).toList = (text n).toList :=
    removed_eq _ hNone
  have hPow : 2 ^ 128 = 16 ^ 32 := by decide
  rcases ofDigits_hexPad 32 n (hPow ▸ hn) with
    ⟨digits, hPad, hDigits, hValue⟩
  have hSome : digits ≠ [] := by
    rintro rfl
    have hLength := length_hexPad 32 n
    rw [hPad] at hLength
    cases hLength
  have hRead : hexInt? (hexPad 32 n) = some (.ofNat n) := by
    rw [hPad, hexInt?_digits hDigits hSome, hValue]
    rfl
  unfold parse?
  simp only
  rw [hUrn, hUuid, trimmed_eq hPlain, filter_text,
    if_pos (length_hexPad 32 n), hRead]
  exact if_pos hn

end Uuid
