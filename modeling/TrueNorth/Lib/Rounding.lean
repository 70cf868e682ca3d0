import Mathlib.Algebra.Order.Field.Basic
import Mathlib.Tactic.Linarith
import Mathlib.Tactic.Ring
import TrueNorth.Lib.Numbers

/-
  How far a double is from the number it is rounded from.

  Main theorems:
    * `Double.roundEven_le`
    * `Double.abs_ofRat_sub_le`
    * `Double.ofRat_le`
    * `Double.ofRat_nonneg`
    * `Double.ofRat_le_nat`
-/

--------
-- Rounding To Integers
--------

namespace Double

theorem roundEven_le
    (q : Rat) :
    (roundEven q : Rat) ≤ q + 1 / 2 := by
  have hFloor : (q.floor : Rat) ≤ q := Rat.floor_le q
  unfold roundEven
  simp only
  split
  · linarith
  split
  · push_cast
    linarith
  split
  · linarith
  · push_cast
    linarith

theorem le_roundEven
    (q : Rat) :
    q - 1 / 2 ≤ roundEven q := by
  have hFloor : q < q.floor + 1 := by
    exact_mod_cast Rat.lt_floor_add_one q
  unfold roundEven
  simp only
  split
  · linarith
  split
  · push_cast
    linarith
  split
  · linarith
  · push_cast
    linarith

/- An integer that is no less stays no less. -/
theorem roundEven_le_int
    {q : Rat}
    {m : Int}
    (hq : q ≤ m) :
    roundEven q ≤ m := by
  have hFloor : q.floor ≤ m := by
    have hLow : (q.floor : Rat) ≤ m := (Rat.floor_le q).trans hq
    exact_mod_cast hLow
  rcases hFloor.eq_or_lt with hSame | hLess
  · have hRest : q - q.floor < 1 / 2 := by
      rw [hSame]
      linarith
    unfold roundEven
    simp only
    rw [if_pos hRest]
    exact hFloor
  · unfold roundEven
    simp only
    split_ifs <;> omega

theorem roundEven_nonneg
    {q : Rat}
    (hq : 0 ≤ q) :
    0 ≤ roundEven q := by
  have hFloor : 0 ≤ q.floor := Rat.le_floor_iff.mpr hq
  unfold roundEven
  simp only
  split_ifs <;> omega

--------
-- Rounding To Doubles
--------

/- What a positive number is rounded to. -/
theorem ofRat_pos
    {q v : Rat}
    (hq : 0 < q)
    (hFinite : ofRat q = .finite v) :
    v = roundEven (q / 2 ^ max (Int.log 2 q - 52) (-1074)) *
      2 ^ max (Int.log 2 q - 52) (-1074) := by
  unfold ofRat at hFinite
  rw [if_neg hq.ne', abs_of_pos hq] at hFinite
  simp only at hFinite
  split at hFinite
  · exact (Double.finite.inj hFinite).symm
  · cases hFinite

theorem ofRat_nonneg
    {q v : Rat}
    (hq : 0 ≤ q)
    (hFinite : ofRat q = .finite v) :
    0 ≤ v := by
  rcases hq.eq_or_lt with hZero | hPos
  · rw [← hZero] at hFinite
    have hv : (0 : Rat) = v := Double.finite.inj hFinite
    rw [← hv]
  · rw [ofRat_pos hPos hFinite]
    have hUlp :
        (0 : Rat) < 2 ^ max (Int.log 2 q - 52) (-1074) :=
      zpow_pos two_pos _
    exact mul_nonneg
      (Int.cast_nonneg (roundEven_nonneg
        (div_nonneg hq hUlp.le))) hUlp.le

/-
  A number is a half of the last of 53 bits away, or less
  than any that is not tiny.
-/
theorem abs_ofRat_sub_le
    {q v : Rat}
    (hFinite : ofRat q = .finite v) :
    |v - q| ≤ |q| / 2 ^ 53 + 1 / 2 ^ 200 := by
  by_cases hZero : q = 0
  · rw [hZero] at hFinite
    have hv : (0 : Rat) = v := Double.finite.inj hFinite
    rw [hZero, ← hv]
    norm_num
  have hPos : 0 < |q| := abs_pos.mpr hZero
  unfold ofRat at hFinite
  rw [if_neg hZero] at hFinite
  generalize hExponent :
    max (Int.log 2 |q| - 52) (-1074) = e at hFinite
  simp only at hFinite
  split at hFinite
  · have hUlp : (0 : Rat) < 2 ^ e := zpow_pos two_pos e
    have hHalf : |v - q| ≤ 2 ^ e / 2 := by
      have hValue := (Double.finite.inj hFinite).symm
      have hApart : v - q =
          (roundEven (q / 2 ^ e) - q / 2 ^ e) * 2 ^ e := by
        rw [sub_mul, div_mul_cancel₀ q hUlp.ne', hValue]
      have hRound : |(roundEven (q / 2 ^ e) : Rat) - q / 2 ^ e| ≤
          1 / 2 := by
        rw [abs_le]
        have hLow := le_roundEven (q / 2 ^ e)
        have hHigh := roundEven_le (q / 2 ^ e)
        constructor
        · linarith
        · linarith
      rw [hApart, abs_mul, abs_of_pos hUlp]
      linarith [mul_le_mul_of_nonneg_right hRound hUlp.le]
    have hSplit : (2 : Rat) ^ e / 2 ≤
        |q| / 2 ^ 53 + 1 / 2 ^ 200 := by
      have hNear : 0 ≤ |q| / (2 : Rat) ^ 53 :=
        div_nonneg hPos.le (by positivity)
      have hTiny : (0 : Rat) ≤ 1 / 2 ^ 200 := by positivity
      by_cases hNormal : -1074 ≤ Int.log 2 |q| - 52
      · rw [max_eq_left hNormal] at hExponent
        have hLow : (2 : Rat) ^ Int.log 2 |q| ≤ |q| :=
          Int.zpow_log_le_self one_lt_two hPos
        have hPower : (2 : Rat) ^ e = 2 ^ Int.log 2 |q| / 2 ^ 52 := by
          rw [← hExponent, zpow_sub₀ two_ne_zero]
          rfl
        have hLe : (2 : Rat) ^ e / 2 ≤ |q| / 2 ^ 53 := by
          rw [hPower, div_div, ← pow_succ]
          exact div_le_div_of_nonneg_right hLow (by positivity)
        linarith
      · rw [max_eq_right (by omega)] at hExponent
        have hLe : (2 : Rat) ^ e ≤ 2 ^ (-200 : Int) :=
          zpow_le_zpow_right₀ one_le_two (by omega)
        rw [zpow_neg, inv_eq_one_div] at hLe
        have hSame : (1 : Rat) / 2 ^ (200 : Int) = 1 / 2 ^ 200 := rfl
        rw [hSame] at hLe
        linarith
    exact hHalf.trans hSplit
  · cases hFinite

/-
  At most an eighth is added, or the number is below one: a
  half of the last of 53 bits, or of the smallest double.
-/
theorem ofRat_le
    {q v : Rat}
    (hq : 0 ≤ q)
    (hFinite : ofRat q = .finite v) :
    v ≤ 9 / 8 * q ∨ v < 1 := by
  rcases hq.eq_or_lt with hZero | hPos
  · rw [← hZero] at hFinite
    have hv : (0 : Rat) = v := Double.finite.inj hFinite
    exact .inr (hv ▸ one_pos)
  · have hValue := ofRat_pos hPos hFinite
    generalize hExponent :
      max (Int.log 2 q - 52) (-1074) = e at hValue
    have hUlp : (0 : Rat) < 2 ^ e := zpow_pos two_pos e
    have hBound : v ≤ q + 2 ^ e / 2 := by
      have hRound := roundEven_le (q / 2 ^ e)
      calc
        v = roundEven (q / 2 ^ e) * 2 ^ e := hValue
        _ ≤ (q / 2 ^ e + 1 / 2) * 2 ^ e :=
          mul_le_mul_of_nonneg_right hRound hUlp.le
        _ = q + 2 ^ e / 2 := by
          rw [add_mul, div_mul_cancel₀ q hUlp.ne']
          ring
    have hLow : (2 : Rat) ^ Int.log 2 q ≤ q :=
      Int.zpow_log_le_self one_lt_two hPos
    have hHigh : q < (2 : Rat) ^ (Int.log 2 q + 1) :=
      Int.lt_zpow_succ_log_self one_lt_two q
    by_cases hNormal : -1074 ≤ Int.log 2 q - 52
    · left
      rw [max_eq_left hNormal] at hExponent
      have hSmall : (2 : Rat) ^ e ≤ q / 4 := by
        have hLe : (2 : Rat) ^ e ≤ 2 ^ (Int.log 2 q - 2) :=
          zpow_le_zpow_right₀ one_le_two (by omega)
        have hSplit : (2 : Rat) ^ (Int.log 2 q - 2) =
            2 ^ Int.log 2 q / 4 := by
          rw [zpow_sub₀ two_ne_zero]
          norm_num
        rw [hSplit] at hLe
        linarith
      linarith
    · right
      rw [max_eq_right (by omega)] at hExponent
      have hTiny (k : Int) (hk : k ≤ -2) :
          (2 : Rat) ^ k ≤ 1 / 4 := by
        have hLe : (2 : Rat) ^ k ≤ 2 ^ (-2 : Int) :=
          zpow_le_zpow_right₀ one_le_two hk
        calc
          (2 : Rat) ^ k ≤ 2 ^ (-2 : Int) := hLe
          _ = 1 / 4 := by norm_num
      have hFirst := hTiny e (by omega)
      have hSecond := hTiny (Int.log 2 q + 1) (by omega)
      linarith

/-
  Between zero and an integer of at most 53 bits a number is
  rounded to a double that is between them.
-/
theorem ofRat_le_nat
    {q : Rat}
    {b : Nat}
    (hq : 0 ≤ q)
    (hLe : q ≤ b)
    (hBits : b < 2 ^ 53) :
    ∃ v, ofRat q = .finite v ∧ 0 ≤ v ∧ v ≤ b := by
  rcases hq.eq_or_lt with hZero | hPos
  · refine ⟨0, ?_, le_rfl, Nat.cast_nonneg b⟩
    rw [← hZero]
    exact if_pos rfl
  · have hLow : (2 : Rat) ^ Int.log 2 q ≤ q :=
      Int.zpow_log_le_self one_lt_two hPos
    have hLog : Int.log 2 q < 53 := by
      by_contra hLarge
      have hPow : (2 : Rat) ^ (53 : Int) ≤ 2 ^ Int.log 2 q :=
        zpow_le_zpow_right₀ one_le_two (not_lt.mp hLarge)
      have hBound : (b : Rat) < 2 ^ (53 : Int) := by
        exact_mod_cast hBits
      linarith
    generalize hExponent : max (Int.log 2 q - 52) (-1074) = e
    have hSmall : e ≤ 0 := by omega
    have hUlp : (0 : Rat) < 2 ^ e := zpow_pos two_pos e
    -- the integer is a whole number of the last bit
    have hWhole : (b : Rat) / 2 ^ e =
        ((b * 2 ^ (-e).toNat : Nat) : Int) := by
      have hTurn : (2 : Rat) ^ ((-e).toNat : Int) = (2 ^ e)⁻¹ := by
        rw [Int.toNat_of_nonneg (by omega), zpow_neg]
      push_cast
      rw [← zpow_natCast (2 : Rat) (-e).toNat, hTurn,
        div_eq_mul_inv]
    have hRound : (roundEven (q / 2 ^ e) : Rat) ≤ b / 2 ^ e := by
      have hInt : roundEven (q / 2 ^ e) ≤
          ((b * 2 ^ (-e).toNat : Nat) : Int) := by
        apply roundEven_le_int
        rw [← hWhole]
        exact div_le_div_of_nonneg_right hLe hUlp.le
      rw [hWhole]
      exact_mod_cast hInt
    have hLower : (0 : Rat) ≤ roundEven (q / 2 ^ e) * 2 ^ e :=
      mul_nonneg
        (Int.cast_nonneg
          (roundEven_nonneg (div_nonneg hq hUlp.le))) hUlp.le
    have hUpper : (roundEven (q / 2 ^ e) : Rat) * 2 ^ e ≤ b :=
      (le_div_iff₀ hUlp).mp hRound
    have hFinite : |(roundEven (q / 2 ^ e) : Rat) * 2 ^ e| <
        2 ^ 1024 := by
      rw [abs_of_nonneg hLower]
      have hBound : (b : Rat) < 2 ^ 53 := by exact_mod_cast hBits
      have hPow : (2 : Rat) ^ 53 ≤ 2 ^ 1024 :=
        pow_le_pow_right₀ one_le_two (by omega)
      exact (hUpper.trans_lt hBound).trans_le hPow
    refine ⟨_, ?_, hLower, hUpper⟩
    unfold ofRat
    rw [if_neg hPos.ne', abs_of_pos hPos]
    simp only
    rw [hExponent, if_pos hFinite]

end Double
