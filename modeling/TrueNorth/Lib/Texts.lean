import Mathlib.Data.List.Basic

/-
  Texts of a language with Unicode strings: what is a blank,
  a text without the blanks around it, the decimal digits of
  every script, an integer of base 16, caseless text, and
  texts as bytes.

  Key definitions include:
    * `Texts.isSpace`, `Texts.strip`
    * `Texts.hexInt?`
    * `Texts.casefold`
    * `Texts.utf8`, `Texts.utf8?`

  Main theorems:
    * `Texts.hexInt?_digits`
    * `Texts.utf8?_utf8`
-/

--------
-- Blanks
--------

namespace Texts

/- A character that `str.isspace` holds of. -/
def isSpace (c : Char) : Bool :=
  let n := c.toNat
  (9 ≤ n && n ≤ 13) || (28 ≤ n && n ≤ 32) || n = 0x85 ||
    n = 0xa0 || n = 0x1680 || (0x2000 ≤ n && n ≤ 0x200a) ||
    n = 0x2028 || n = 0x2029 || n = 0x202f || n = 0x205f ||
    n = 0x3000

/- Without some characters at both ends. -/
def trimmed
    (p : Char → Bool)
    (text : List Char) : List Char :=
  ((text.dropWhile p).reverse.dropWhile p).reverse

def strip (text : String) : String :=
  String.ofList (trimmed isSpace text.toList)

/- What is not there need not be removed. -/
theorem trimmed_eq
    {p : Char → Bool}
    {text : List Char}
    (hNot : ∀ c ∈ text, p c = false) :
    trimmed p text = text := by
  have hKept (cs : List Char)
      (hCs : ∀ c ∈ cs, p c = false) :
      cs.dropWhile p = cs := by
    cases cs with
    | nil => rfl
    | cons c cs =>
        exact List.dropWhile_cons_of_neg
          (by simp [hCs c List.mem_cons_self])
  unfold trimmed
  rw [hKept text hNot, hKept text.reverse
    (fun c hMem => hNot c (List.mem_reverse.mp hMem)),
    List.reverse_reverse]

--------
-- Integers Of Base 16
--------

def hexValue? (c : Char) : Option Nat :=
  let n := c.toNat
  if 48 ≤ n && n ≤ 57 then some (n - 48)
  else if 65 ≤ n && n ≤ 70 then some (n - 55)
  else if 97 ≤ n && n ≤ 102 then some (n - 87)
  else none

/- The zeros of the scripts that have decimal digits. -/
def zeros : List Nat :=
  [0x30, 0x660, 0x6f0, 0x7c0, 0x966, 0x9e6, 0xa66, 0xae6, 0xb66,
    0xbe6, 0xc66, 0xce6, 0xd66, 0xde6, 0xe50, 0xed0, 0xf20,
    0x1040, 0x1090, 0x17e0, 0x1810, 0x1946, 0x19d0, 0x1a80,
    0x1a90, 0x1b50, 0x1bb0, 0x1c40, 0x1c50, 0xa620, 0xa8d0,
    0xa900, 0xa9d0, 0xa9f0, 0xaa50, 0xabf0, 0xff10, 0x104a0,
    0x10d30, 0x11066, 0x110f0, 0x11136, 0x111d0, 0x112f0,
    0x11450, 0x114d0, 0x11650, 0x116c0, 0x11730, 0x118e0,
    0x11950, 0x11c50, 0x11d50, 0x11da0, 0x16a60, 0x16ac0,
    0x16b50, 0x1d7ce, 0x1d7d8, 0x1d7e2, 0x1d7ec, 0x1d7f6,
    0x1e140, 0x1e2f0, 0x1e950, 0x1fbf0]

/- The value of a digit of any script, or of a letter. -/
def digitValue? (c : Char) : Option Nat :=
  (hexValue? c).or
    ((zeros.find? (fun first =>
      first ≤ c.toNat && c.toNat < first + 10)).map
        (c.toNat - ·))

/- Digits, single underscores between them. -/
def digitRun :
    List Char → Option (List Nat)
| [] => none
| [c] => (digitValue? c).map ([·])
| c :: '_' :: rest => do
    let d ← digitValue? c
    let ds ← digitRun rest
    some (d :: ds)
| c :: rest => do
    let d ← digitValue? c
    let ds ← digitRun rest
    some (d :: ds)

def ofDigits (digits : List Nat) : Nat :=
  digits.foldl (fun n d => 16 * n + d) 0

/- After the sign: the mark of base 16 may come first. -/
def withoutMark :
    List Char → List Char
| '0' :: 'x' :: '_' :: rest => rest
| '0' :: 'X' :: '_' :: rest => rest
| '0' :: 'x' :: rest => rest
| '0' :: 'X' :: rest => rest
| cs => cs

/- A blank that an integer may stand between. -/
def isBlank (c : Char) : Bool :=
  isSpace c && !(28 ≤ c.toNat && c.toNat ≤ 31)

/- `int(text, 16)`. -/
def hexInt? (text : List Char) : Option Int :=
  match trimmed isBlank text with
  | '-' :: cs =>
      (digitRun (withoutMark cs)).map (fun ds => -(ofDigits ds : Int))
  | '+' :: cs =>
      (digitRun (withoutMark cs)).map (fun ds => (ofDigits ds : Int))
  | cs =>
      (digitRun (withoutMark cs)).map (fun ds => (ofDigits ds : Int))

theorem hexValue?_digitChar :
    ∀ d < 16, hexValue? (Nat.digitChar d) = some d := by
  decide

theorem digitChar_plain :
    ∀ d < 16, isBlank (Nat.digitChar d) = false ∧
      Nat.digitChar d ≠ '_' ∧ Nat.digitChar d ≠ '-' ∧
      Nat.digitChar d ≠ '+' ∧ Nat.digitChar d ≠ 'x' ∧
      Nat.digitChar d ≠ 'X' := by
  decide

/- Digits without underscores are the digits they show. -/
theorem digitRun_digits
    {digits : List Nat}
    (hDigits : ∀ d ∈ digits, d < 16)
    (hSome : digits ≠ []) :
    digitRun (digits.map Nat.digitChar) = some digits := by
  induction digits with
  | nil => exact absurd rfl hSome
  | cons d ds ih =>
      have hd := hDigits d List.mem_cons_self
      have hDs : ∀ d' ∈ ds, d' < 16 :=
        fun d' hMem => hDigits d' (List.mem_cons_of_mem _ hMem)
      have hValue :
          digitValue? (Nat.digitChar d) = some d := by
        unfold digitValue?
        rw [hexValue?_digitChar d hd]
        rfl
      cases ds with
      | nil =>
          rw [List.map_cons, List.map_nil, digitRun, hValue]
          rfl
      | cons d' ds =>
          have hNext := hDs d' List.mem_cons_self
          have hRun := ih hDs (by simp)
          rw [List.map_cons] at hRun
          rw [List.map_cons, List.map_cons, digitRun, hValue, hRun]
          · rfl
          · intro hNil
            cases hNil
          · intro rest hCons
            exact (digitChar_plain d' hNext).2.1
              (List.cons.inj hCons).1

theorem withoutMark_digits
    {digits : List Nat}
    (hDigits : ∀ d ∈ digits, d < 16) :
    withoutMark (digits.map Nat.digitChar) =
      digits.map Nat.digitChar := by
  have hNot : ∀ c ∈ digits.map Nat.digitChar,
      c ≠ 'x' ∧ c ≠ 'X' := by
    intro c hMem
    rcases List.mem_map.mp hMem with ⟨d, hIn, rfl⟩
    exact ⟨(digitChar_plain d (hDigits d hIn)).2.2.2.2.1,
      (digitChar_plain d (hDigits d hIn)).2.2.2.2.2⟩
  unfold withoutMark
  split
  · rename_i hCons
    exact absurd rfl (hNot 'x' (by rw [hCons]; simp)).1
  · rename_i hCons
    exact absurd rfl (hNot 'X' (by rw [hCons]; simp)).2
  · rename_i hCons
    exact absurd rfl (hNot 'x' (by rw [hCons]; simp)).1
  · rename_i hCons
    exact absurd rfl (hNot 'X' (by rw [hCons]; simp)).2
  · rfl

/- Plain digits stand for the number they write. -/
theorem hexInt?_digits
    {digits : List Nat}
    (hDigits : ∀ d ∈ digits, d < 16)
    (hSome : digits ≠ []) :
    hexInt? (digits.map Nat.digitChar) =
      some (ofDigits digits : Int) := by
  have hPlain : ∀ c ∈ digits.map Nat.digitChar,
      isBlank c = false ∧ c ≠ '-' ∧ c ≠ '+' := by
    intro c hMem
    rcases List.mem_map.mp hMem with ⟨d, hIn, rfl⟩
    have hAll := digitChar_plain d (hDigits d hIn)
    exact ⟨hAll.1, hAll.2.2.1, hAll.2.2.2.1⟩
  unfold hexInt?
  rw [trimmed_eq (fun c hMem => (hPlain c hMem).1)]
  split
  · rename_i hCons
    exact absurd rfl (hPlain '-' (by rw [hCons]; simp)).2.1
  · rename_i hCons
    exact absurd rfl (hPlain '+' (by rw [hCons]; simp)).2.2
  · rw [withoutMark_digits hDigits,
      digitRun_digits hDigits hSome]
    rfl

--------
-- Caseless Text
--------

/-
  `str.casefold`, of the characters that fold to ASCII.  Any
  other character is left: what it folds to has a character
  outside ASCII, as it has itself.
-/
def fold (c : Char) : List Char :=
  let n := c.toNat
  if 65 ≤ n && n ≤ 90 then [Char.ofNat (n + 32)]
  else if n = 0xdf || n = 0x1e9e then ['s', 's']
  else if n = 0x17f then ['s']
  else if n = 0x212a then ['k']
  else if n = 0xfb00 then ['f', 'f']
  else if n = 0xfb01 then ['f', 'i']
  else if n = 0xfb02 then ['f', 'l']
  else if n = 0xfb03 then ['f', 'f', 'i']
  else if n = 0xfb04 then ['f', 'f', 'l']
  else if n = 0xfb05 || n = 0xfb06 then ['s', 't']
  else [c]

def casefold (text : String) : String :=
  String.ofList (text.toList.flatMap fold)

--------
-- Bytes
--------

/- `encode`, as UTF-8. -/
def utf8 (text : List Char) : List UInt8 :=
  text.flatMap String.utf8EncodeChar

/- `decode`, of UTF-8. -/
def utf8? (bytes : List UInt8) : Option (List Char) :=
  bytes.toByteArray.utf8Decode?.map Array.toList

theorem utf8?_utf8
    (text : List Char) :
    utf8? (utf8 text) = some text :=
  congrArg (Option.map Array.toList) List.utf8Decode?_utf8Encode

theorem utf8_injective
    {text text' : List Char}
    (hSame : utf8 text = utf8 text') :
    text = text' := by
  have hRead := utf8?_utf8 text
  rw [hSame, utf8?_utf8] at hRead
  exact (Option.some.inj hRead).symm

/- The digits of bytes, in base 16. -/
def hexDigest (bytes : List UInt8) : String :=
  String.ofList (bytes.flatMap (fun b =>
    [Nat.digitChar (b.toNat / 16), Nat.digitChar (b.toNat % 16)]))

end Texts
