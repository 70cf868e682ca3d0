import Mathlib.Data.List.Nodup

/-
  Base64 of byte strings, with padding: three bytes as four
  digits, and a strict reader that takes nothing else.

  Key definitions include:
    * `Base64.encode`
    * `Base64.decode?`

  Main theorem:
    * `Base64.decode?_encode`
-/

--------
-- Digits
--------

namespace Base64

def alphabet : List Char :=
  "ABCDEFGHIJKLMNOPQRSTUVWXYZabcdefghijklmnopqrstuvwxyz0123456789+/".toList

def digit (n : Nat) : Char :=
  alphabet.getD n 'A'

/- The number of a digit; nothing else has one. -/
def value? (c : Char) : Option Nat :=
  alphabet.findIdx? (· = c)

theorem alphabet_eq :
    alphabet =
      ['A', 'B', 'C', 'D', 'E', 'F', 'G', 'H', 'I', 'J', 'K',
       'L', 'M', 'N', 'O', 'P', 'Q', 'R', 'S', 'T', 'U', 'V',
       'W', 'X', 'Y', 'Z', 'a', 'b', 'c', 'd', 'e', 'f', 'g',
       'h', 'i', 'j', 'k', 'l', 'm', 'n', 'o', 'p', 'q', 'r',
       's', 't', 'u', 'v', 'w', 'x', 'y', 'z', '0', '1', '2',
       '3', '4', '5', '6', '7', '8', '9', '+', '/'] :=
  String.toList_ofList

theorem length_alphabet : alphabet.length = 64 := by
  rw [alphabet_eq]
  rfl

theorem nodup_alphabet : alphabet.Nodup := by
  apply List.Nodup.of_map Char.toNat
  rw [alphabet_eq]
  simp only [List.map_cons, List.map_nil, Char.reduceToNat]
  decide

theorem digit_eq
    {n : Nat}
    (hLess : n < alphabet.length) :
    digit n = alphabet[n] := by
  unfold digit
  rw [List.getD_eq_getElem?_getD, List.getElem?_eq_getElem hLess,
    Option.getD_some]

theorem value?_digit :
    ∀ n < 64, value? (digit n) = some n := by
  intro n hDigit
  have hLess : n < alphabet.length := by
    rw [length_alphabet]
    exact hDigit
  unfold value?
  rw [digit_eq hLess, List.findIdx?_eq_some_iff_getElem]
  refine ⟨hLess, decide_eq_true rfl, ?_⟩
  intro i hEarlier hSame
  have hIndex := (List.Nodup.getElem_inj_iff nodup_alphabet).mp
    (of_decide_eq_true hSame)
  omega

theorem digit_ne_pad :
    ∀ n < 64, digit n ≠ '=' := by
  intro n hDigit hPad
  have hLess : n < alphabet.length := by
    rw [length_alphabet]
    exact hDigit
  have hMem : digit n ∈ alphabet := by
    rw [digit_eq hLess]
    exact List.getElem_mem hLess
  rw [hPad, alphabet_eq] at hMem
  revert hMem
  decide

--------
-- Bytes
--------

def encode :
    List UInt8 → List Char
| a :: b :: c :: rest =>
    digit (a.toNat / 4) ::
      digit (a.toNat % 4 * 16 + b.toNat / 16) ::
      digit (b.toNat % 16 * 4 + c.toNat / 64) ::
      digit (c.toNat % 64) :: encode rest
| [a, b] =>
    [digit (a.toNat / 4),
      digit (a.toNat % 4 * 16 + b.toNat / 16),
      digit (b.toNat % 16 * 4), '=']
| [a] =>
    [digit (a.toNat / 4), digit (a.toNat % 4 * 16), '=', '=']
| [] => []

/- The byte that two neighbouring digits share. -/
def byte (high low : Nat) : UInt8 :=
  UInt8.ofNat (high + low)

/- Padding ends the text, and stands for missing bytes. -/
def decode? :
    List Char → Option (List UInt8)
| a :: b :: c :: d :: rest => do
    let v₀ ← value? a
    let v₁ ← value? b
    if d = '=' then
      if rest ≠ [] then none
      else if c = '=' then
        some [byte (v₀ * 4) (v₁ / 16)]
      else do
        let v₂ ← value? c
        some
          [byte (v₀ * 4) (v₁ / 16),
            byte (v₁ % 16 * 16) (v₂ / 4)]
    else do
      let v₂ ← value? c
      let v₃ ← value? d
      let bytes ← decode? rest
      some
        (byte (v₀ * 4) (v₁ / 16) ::
          byte (v₁ % 16 * 16) (v₂ / 4) ::
          byte (v₂ % 4 * 64) v₃ :: bytes)
| [] => some []
| _ => none

theorem byte_eq
    {a : UInt8}
    {high low : Nat}
    (hSum : high + low = a.toNat) :
    byte high low = a := by
  unfold byte
  rw [hSum]
  exact UInt8.ofNat_toNat

theorem decode?_four
    {p q r t : Char}
    {v₀ v₁ v₂ v₃ : Nat}
    {rest : List Char}
    {bytes : List UInt8}
    (hp : value? p = some v₀)
    (hq : value? q = some v₁)
    (hr : value? r = some v₂)
    (ht : value? t = some v₃)
    (hPad : t ≠ '=')
    (hRest : decode? rest = some bytes) :
    decode? (p :: q :: r :: t :: rest) =
      some
        (byte (v₀ * 4) (v₁ / 16) ::
          byte (v₁ % 16 * 16) (v₂ / 4) ::
          byte (v₂ % 4 * 64) v₃ :: bytes) := by
  rw [decode?, hp, hq, hr, ht, hRest]
  simp only [Option.bind_eq_bind, Option.bind_some, if_neg hPad]

theorem decode?_three
    {p q r t : Char}
    {v₀ v₁ v₂ : Nat}
    (hp : value? p = some v₀)
    (hq : value? q = some v₁)
    (hr : value? r = some v₂)
    (hDigit : r ≠ '=')
    (hPad : t = '=') :
    decode? [p, q, r, t] =
      some
        [byte (v₀ * 4) (v₁ / 16),
          byte (v₁ % 16 * 16) (v₂ / 4)] := by
  rw [decode?, hp, hq]
  simp only [Option.bind_eq_bind, Option.bind_some]
  rw [if_pos hPad, if_neg (not_not_intro rfl), if_neg hDigit, hr,
    Option.bind_some]

theorem decode?_two
    {p q r t : Char}
    {v₀ v₁ : Nat}
    (hp : value? p = some v₀)
    (hq : value? q = some v₁)
    (hFirst : r = '=')
    (hSecond : t = '=') :
    decode? [p, q, r, t] =
      some [byte (v₀ * 4) (v₁ / 16)] := by
  rw [decode?, hp, hq]
  simp only [Option.bind_eq_bind, Option.bind_some]
  rw [if_pos hSecond, if_neg (not_not_intro rfl), if_pos hFirst]

/- What is written is read back. -/
theorem decode?_encode
    (bytes : List UInt8) :
    decode? (encode bytes) = some bytes := by
  induction bytes using encode.induct with
  | case1 a b c rest ih =>
      have ha := a.toNat_lt
      have hb := b.toNat_lt
      have hc := c.toNat_lt
      rw [encode, decode?_four (value?_digit _ (by omega))
        (value?_digit _ (by omega)) (value?_digit _ (by omega))
        (value?_digit _ (by omega)) (digit_ne_pad _ (by omega))
        ih]
      rw [@byte_eq a _ _ (by omega), @byte_eq b _ _ (by omega),
        @byte_eq c _ _ (by omega)]
  | case2 a b =>
      have ha := a.toNat_lt
      have hb := b.toNat_lt
      rw [encode, decode?_three (value?_digit _ (by omega))
        (value?_digit _ (by omega)) (value?_digit _ (by omega))
        (digit_ne_pad _ (by omega)) rfl]
      rw [@byte_eq a _ _ (by omega), @byte_eq b _ _ (by omega)]
  | case3 a =>
      have ha := a.toNat_lt
      rw [encode, decode?_two (value?_digit _ (by omega))
        (value?_digit _ (by omega)) rfl rfl]
      rw [@byte_eq a _ _ (by omega)]
  | case4 => rfl

end Base64
