import Mathlib.Data.List.Basic

/-
  Big-endian integers in byte strings: reading an unsigned
  or a signed field, and writing it back.

  Main declarations:
    * `BigEndian.natAt`
    * `BigEndian.int32`
    * `BigEndian.ints32`
    * `BigEndian.ofInt32`
    * `BigEndian.ints32_ofInts32`
-/

--------
-- Unsigned Fields
--------

namespace BigEndian

abbrev Bytes := List UInt8

/- The number a byte string spells, most significant first. -/
def nat (bytes : Bytes) : Nat :=
  bytes.foldl (fun n byte => 256 * n + byte.toNat) 0

/- The unsigned field of `width` bytes at `offset`. -/
def natAt
    (width offset : Nat)
    (bytes : Bytes) : Nat :=
  nat ((bytes.drop offset).take width)

/- Bytes after the field do not change it. -/
theorem natAt_append
    {width offset : Nat}
    {bytes : Bytes}
    (hLength : offset + width ≤ bytes.length)
    (rest : Bytes) :
    natAt width offset (bytes ++ rest) =
      natAt width offset bytes := by
  unfold natAt
  rw [List.drop_append_of_le_length (by omega),
    List.take_append_of_le_length]
  rw [List.length_drop]
  omega

/- The low 16 bits of a number. -/
def ofNat16 (n : Nat) : Bytes :=
  [UInt8.ofNat (n / 256), UInt8.ofNat n]

@[simp] theorem length_ofNat16
    (n : Nat) :
    (ofNat16 n).length = 2 := rfl

theorem nat_ofNat16
    {n : Nat}
    (hn : n < 65536) :
    nat (ofNat16 n) = n := by
  simp only [nat, ofNat16, List.foldl_cons,
    List.foldl_nil, UInt8.toNat_ofNat']
  omega

--------
-- Signed 32-Bit Fields
--------

/- Two's complement reading of a 32-bit field. -/
def int32 (bytes : Bytes) : Int :=
  let n := nat bytes
  if n < 2147483648 then n else n - 4294967296

/- The four bytes of a 32-bit integer, modulo 2^32. -/
def ofInt32 (i : Int) : Bytes :=
  let n := (i % 4294967296).toNat
  [UInt8.ofNat (n / 16777216), UInt8.ofNat (n / 65536),
    UInt8.ofNat (n / 256), UInt8.ofNat n]

@[simp] theorem length_ofInt32
    (i : Int) :
    (ofInt32 i).length = 4 := rfl

/- A number two's complement represents in 32 bits. -/
def IsInt32 (i : Int) : Prop :=
  -2147483648 ≤ i ∧ i < 2147483648

/- Writing a 32-bit integer and reading it gives it back. -/
theorem int32_ofInt32
    {i : Int}
    (hi : IsInt32 i) :
    int32 (ofInt32 i) = i := by
  have hNat :
      nat (ofInt32 i) = (i % 4294967296).toNat := by
    simp only [nat, ofInt32, List.foldl_cons,
      List.foldl_nil, UInt8.toNat_ofNat']
    omega
  unfold int32
  rw [hNat]
  rcases hi with ⟨hLow, hHigh⟩
  simp only
  split <;> omega

/- The first `count` 32-bit fields. -/
def ints32 : Nat → Bytes → List Int
| 0, _ => []
| count + 1, bytes =>
    int32 (bytes.take 4) :: ints32 count (bytes.drop 4)

@[simp] theorem length_ints32
    (count : Nat)
    (bytes : Bytes) :
    (ints32 count bytes).length = count := by
  induction count generalizing bytes with
  | zero => rfl
  | succ count ih => rw [ints32, List.length_cons, ih]

/- The fields of a list of 32-bit integers. -/
def ofInts32 (is : List Int) : Bytes :=
  is.flatMap ofInt32

@[simp] theorem length_ofInts32
    (is : List Int) :
    (ofInts32 is).length = 4 * is.length := by
  induction is with
  | nil => rfl
  | cons i is ih =>
      simp only [ofInts32, List.flatMap_cons,
        List.length_append, length_ofInt32,
        List.length_cons] at ih ⊢
      omega

/- Reading a four-byte field gives a 32-bit integer. -/
theorem isInt32_int32
    (bytes : Bytes)
    (hLength : bytes.length ≤ 4) :
    IsInt32 (int32 bytes) := by
  have hNat : nat bytes < 4294967296 := by
    match bytes, hLength with
    | [], _ => decide
    | [a], _ =>
        have ha := a.toNat_lt
        simp only [nat, List.foldl_cons, List.foldl_nil]
        omega
    | [a, b], _ =>
        have ha := a.toNat_lt
        have hb := b.toNat_lt
        simp only [nat, List.foldl_cons, List.foldl_nil]
        omega
    | [a, b, c], _ =>
        have ha := a.toNat_lt
        have hb := b.toNat_lt
        have hc := c.toNat_lt
        simp only [nat, List.foldl_cons, List.foldl_nil]
        omega
    | [a, b, c, d], _ =>
        have ha := a.toNat_lt
        have hb := b.toNat_lt
        have hc := c.toNat_lt
        have hd := d.toNat_lt
        simp only [nat, List.foldl_cons, List.foldl_nil]
        omega
  unfold int32 IsInt32
  simp only
  split <;> omega

theorem isInt32_of_mem_ints32
    {count : Nat}
    {bytes : Bytes}
    {i : Int}
    (hi : i ∈ ints32 count bytes) :
    IsInt32 i := by
  induction count generalizing bytes with
  | zero => simp [ints32] at hi
  | succ count ih =>
      simp only [ints32, List.mem_cons] at hi
      rcases hi with rfl | hi
      · apply isInt32_int32
        rw [List.length_take]
        omega
      · exact ih hi

/- Reading back the fields written gives the integers. -/
theorem ints32_ofInts32
    {is : List Int}
    (hInts : ∀ i ∈ is, IsInt32 i)
    (rest : Bytes) :
    ints32 is.length (ofInts32 is ++ rest) = is := by
  induction is with
  | nil => rfl
  | cons i is ih =>
      have hHead :
          ofInts32 (i :: is) ++ rest =
            ofInt32 i ++ (ofInts32 is ++ rest) := by
        simp [ofInts32]
      have hTail :
          ints32 is.length (ofInts32 is ++ rest) = is :=
        ih (fun j hj => hInts j (List.mem_cons_of_mem _ hj))
      rw [hHead, List.length_cons, ints32,
        List.take_append_of_le_length (by simp),
        List.drop_append_of_le_length (by simp)]
      rw [List.take_of_length_le (by simp),
        List.drop_of_length_le (by simp), List.nil_append,
        hTail,
        int32_ofInt32 (hInts i List.mem_cons_self)]

end BigEndian
